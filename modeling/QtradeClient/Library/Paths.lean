import Mathlib.Data.List.Basic

/-!
# Lexical normalisation of paths

A path is a text cut at its separators.  Its normal form is found without looking at a
file system: empty components and those that stay are dropped, and one that goes up
cancels the component before it.  At the root there is nowhere to go up to; a relative
path keeps the steps that lead out of where it starts.
-/

namespace Library.Paths

abbrev Component := List Char

def separator : Char := '/'

/-- The component that stays where it is. -/
def here : Component := ['.']

/-- The component that goes up. -/
def up : Component := ['.', '.']

def isRooted (path : List Char) : Bool := path.head? = some separator

/-- Go one component further; the components so far are held back to front. -/
def push (rooted : Bool) (stack : List Component) (component : Component) : List Component :=
  if component = [] ∨ component = here then stack
  else if component = up then
    match stack with
    | [] => if rooted then [] else [up]
    | top :: rest => if top = up then up :: top :: rest else rest
  else component :: stack

/-- Where a path leads to. -/
structure Location where
  rooted : Bool
  components : List Component
  deriving DecidableEq

/-- The location of an entry of a directory. -/
def Location.entry (directory : Location) (name : Component) : Location :=
  { directory with components := directory.components ++ [name] }

def normal (path : List Char) : Location where
  rooted := isRooted path
  components := ((path.splitOn separator).foldl (push (isRooted path)) []).reverse

/-- A path behind a directory, for a path that is not rooted. -/
def join (directory path : List Char) : List Char :=
  if directory = [] ∨ directory.getLast? = some separator then directory ++ path
  else directory ++ separator :: path

/-- A component that names an entry of the directory it stands in. -/
structure IsName (component : Component) : Prop where
  nonempty : component ≠ []
  notHere : component ≠ here
  notUp : component ≠ up
  whole : separator ∉ component

theorem push_name {component : Component} (hname : IsName component) (rooted : Bool)
    (stack : List Component) : push rooted stack component = component :: stack := by
  simp [push, hname.nonempty, hname.notHere, hname.notUp]

/-- Cutting a joined path is cutting the directory, up to an empty component. -/
theorem splitOn_join (directory : List Char) {name : Component} (hname : separator ∉ name) :
    ∃ parts, (join directory name).splitOn separator = parts ++ [name] ∧
      (directory.splitOn separator = parts ∨ directory.splitOn separator = parts ++ [[]]) := by
  have hsingle : name.splitOn separator = [name] := List.splitOn_eq_singleton hname
  by_cases hempty : directory = []
  · refine ⟨[], ?_, .inr ?_⟩
    · rw [join, if_pos (.inl hempty), hempty, List.nil_append, hsingle]
      rfl
    · rw [hempty]
      rfl
  · by_cases hlast : directory.getLast? = some separator
    · obtain ⟨stem, rfl⟩ := List.getLast?_eq_some_iff.mp hlast
      refine ⟨stem.splitOn separator, ?_, .inr (List.splitOn_append_cons_self stem [])⟩
      rw [join, if_pos (.inr hlast), List.append_assoc, List.singleton_append,
        List.splitOn_append_cons_self, hsingle]
    · refine ⟨directory.splitOn separator, ?_, .inl rfl⟩
      rw [join, if_neg (not_or.mpr ⟨hempty, hlast⟩), List.splitOn_append_cons_self, hsingle]

theorem isRooted_join (directory : List Char) {name : Component} (hname : separator ∉ name) :
    isRooted (join directory name) = isRooted directory := by
  cases directory with
  | nil =>
      cases name with
      | nil => rfl
      | cons first rest =>
          have hfirst : first ≠ separator := fun heq => hname (heq ▸ List.mem_cons_self)
          simp [isRooted, join, hfirst]
  | cons first rest =>
      unfold join
      split <;> rfl

/-- A name behind a directory leads to that entry of the directory. -/
theorem normal_join (directory : List Char) {name : Component} (hname : IsName name) :
    normal (join directory name) = (normal directory).entry name := by
  have hempty : ∀ stack, push (isRooted directory) stack [] = stack := fun stack => by
    simp [push]
  obtain ⟨parts, hjoined, hparts⟩ := splitOn_join directory hname.whole
  have hdirectory : (directory.splitOn separator).foldl (push (isRooted directory)) [] =
      parts.foldl (push (isRooted directory)) [] := by
    rcases hparts with hparts | hparts
    · rw [hparts]
    · rw [hparts, List.foldl_append, List.foldl_cons, List.foldl_nil, hempty]
  rw [normal, isRooted_join directory hname.whole, hjoined, List.foldl_append, List.foldl_cons,
    List.foldl_nil, push_name hname, ← hdirectory, List.reverse_cons]
  rfl

/-- Nothing that a path is cut into holds a separator. -/
theorem separator_notMem_of_mem_splitOn (path : List Char) :
    ∀ component ∈ path.splitOn separator, separator ∉ component := by
  induction path with
  | nil =>
      intro component hcomponent
      rw [List.splitOn_eq_singleton List.not_mem_nil] at hcomponent
      rw [List.mem_singleton.mp hcomponent]
      exact List.not_mem_nil
  | cons first rest ih =>
      rw [List.splitOn_cons_eq_if_modifyHead]
      by_cases hfirst : first = separator
      · simpa [hfirst] using ih
      · cases hsplit : rest.splitOn separator with
        | nil => exact absurd hsplit (List.splitOn_ne_nil separator rest)
        | cons head tail =>
            rw [hsplit] at ih
            simpa [hfirst, Ne.symm hfirst] using ih

theorem mem_push {rooted : Bool} {stack : List Component} {component other : Component}
    (hother : other ∈ push rooted stack component) :
    other = component ∨ other = up ∨ other ∈ stack := by
  unfold push at hother
  split at hother
  · exact .inr (.inr hother)
  · split at hother
    · split at hother
      · split at hother
        · exact .inr (.inr hother)
        · exact .inr (.inl (List.mem_singleton.mp hother))
      · split at hother
        · rcases List.mem_cons.mp hother with hup | hrest
          · exact .inr (.inl hup)
          · exact .inr (.inr hrest)
        · exact .inr (.inr (List.mem_cons_of_mem _ hother))
    · rcases List.mem_cons.mp hother with hnew | hrest
      · exact .inl hnew
      · exact .inr (.inr hrest)

theorem separator_notMem_of_mem_foldl {rooted : Bool} {parts stack : List Component}
    (hparts : ∀ component ∈ parts, separator ∉ component)
    (hstack : ∀ component ∈ stack, separator ∉ component) :
    ∀ component ∈ parts.foldl (push rooted) stack, separator ∉ component := by
  induction parts generalizing stack with
  | nil => exact hstack
  | cons first rest ih =>
      obtain ⟨hfirst, hrest⟩ := List.forall_mem_cons.mp hparts
      refine ih hrest fun component hcomponent => ?_
      rcases mem_push hcomponent with rfl | rfl | hold
      · exact hfirst
      · decide
      · exact hstack component hold

/-- No component of a normal form holds a separator. -/
theorem separator_notMem_normal (path : List Char) :
    ∀ component ∈ (normal path).components, separator ∉ component := by
  intro component hcomponent
  exact separator_notMem_of_mem_foldl (separator_notMem_of_mem_splitOn path)
    (fun _ hnil => absurd hnil List.not_mem_nil) component (List.mem_reverse.mp hcomponent)

/-- A path that leads to an entry under a name shows that the name has no separator. -/
theorem whole_of_normal_eq_entry {path : List Char} {directory : Location} {name : Component}
    (hentry : normal path = directory.entry name) : separator ∉ name := by
  apply separator_notMem_normal path
  rw [hentry]
  exact List.mem_append_right _ List.mem_cons_self

example : normal "/opt//plugins/./a/../lib".toList =
    ⟨true, ["opt".toList, "plugins".toList, "lib".toList]⟩ := by decide

end Library.Paths
