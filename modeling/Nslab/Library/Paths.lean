import Nslab.Library.Text

/-! Paths as the names of their components, the way `pathlib` puts them together. -/

/-- The names of the components, from the root. -/
abbrev PurePath := List String

namespace PurePath

/-- The components that a text stands for. Empty ones and those that stay where they are count for nothing. -/
def parts (text : String) : PurePath :=
  ((Text.split '/' text.toList).filter fun part => part ≠ [] ∧ part ≠ ['.']).map String.ofList

/-- `path / text`. An absolute text leaves nothing of the path. -/
def join (path : PurePath) (text : String) : PurePath := if text.toList.head? = some '/' then parts text else path ++ parts text

/-- `path.joinpath(*texts)`. -/
def joinpath (path : PurePath) (texts : List String) : PurePath := texts.foldl join path

/-- A text that names one component. -/
structure Component (text : String) : Prop where
  slash : '/' ∉ text.toList
  named : text.toList ≠ []
  moves : text.toList ≠ ['.']

theorem parts_of_slash {text : String} (slash : '/' ∉ text.toList) :
    parts text = if text.toList = [] ∨ text.toList = ['.'] then [] else [text] := by
  have whole : Text.split '/' text.toList = [text.toList] := List.splitOn_eq_singleton slash
  rw [parts, whole]
  by_cases empty : text.toList = []
  · simp [empty]
  · by_cases stays : text.toList = ['.']
    · simp [stays]
    · simp only [ne_eq, empty, not_false_eq_true, stays, and_self, decide_true, List.filter_cons_of_pos, List.filter_nil,
        List.map_cons, List.map_nil, or_self, if_false, String.ofList_toList]

theorem join_of_slash {path : PurePath} {text : String} (slash : '/' ∉ text.toList) : path.join text = path ++ parts text := by
  rw [join, if_neg]
  intro absolute
  cases shape : text.toList with
  | nil => simp [shape] at absolute
  | cons first rest => simp_all

/-- A component goes last. -/
theorem join_component {path : PurePath} {text : String} (component : Component text) : path.join text = path ++ [text] := by
  rw [join_of_slash component.slash, parts_of_slash component.slash, if_neg]
  exact not_or.mpr ⟨component.named, component.moves⟩

theorem joinpath_of_slash {path : PurePath} {texts : List String} (slash : ∀ text ∈ texts, '/' ∉ text.toList) :
    path.joinpath texts = path ++ texts.flatMap parts := by
  unfold joinpath
  induction texts generalizing path with
  | nil => simp
  | cons text rest ih =>
    rw [List.foldl_cons, ih fun other member => slash other (List.mem_cons_of_mem _ member),
      join_of_slash (slash text List.mem_cons_self), List.append_assoc, List.flatMap_cons]

theorem joinpath_components {path : PurePath} {texts : List String} (components : ∀ text ∈ texts, Component text) :
    path.joinpath texts = path ++ texts := by
  rw [joinpath_of_slash fun text member => (components text member).slash]
  congr 1
  induction texts with
  | nil => rfl
  | cons text rest ih =>
    have component := components text List.mem_cons_self
    rw [List.flatMap_cons, ih fun other member => components other (List.mem_cons_of_mem _ member),
      parts_of_slash component.slash, if_neg (not_or.mpr ⟨component.named, component.moves⟩)]
    rfl

end PurePath
