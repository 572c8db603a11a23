/-
ReleaseKit.FileTree.Basic — the files and directories of a disk.

A file tree says what is at each location. It has a root directory, and
whatever is in it stands in a directory; both are part of the type. Two trees
are equal exactly when the same things are at the same locations.

There are no links in a file tree; with them it is a `LinkedTree`. Who may read, write or run a
file, when it was last changed, whether it has a second name and how much room the
disk has are left out: nothing that a release tells or decides depends on them, as long as it is
allowed to work on its files.

  §1 Locations  — names from the inside out, and what is below what.
  §2 Trees      — `FileTree`, `node?`, `ext`.
  §3 Changes    — `put`, `clear` and `remove`, each with its effect on `node?`.
-/
import ReleaseKit.FileTree.Contents
import Std.Data.ExtTreeMap

namespace ReleaseKit

/-! ## §1 Locations -/

/-- Where something is: the names that lead to it, the innermost first. The
root is the empty location. -/
abbrev Location := List String

namespace Location

/-- The order in which a tree keeps its locations. -/
def order : Location → Location → Ordering :=
  @compare (List String) (@List.instOrd String String.instOrd)

instance : Std.TransCmp order :=
  inferInstanceAs (@Std.TransOrd (List String) (@List.instOrd String String.instOrd))

instance : Std.LawfulEqCmp order :=
  inferInstanceAs (@Std.LawfulEqOrd (List String) (@List.instOrd String String.instOrd))

theorem order_eq_iff {a b : Location} : order a b = .eq ↔ a = b :=
  Std.LawfulEqCmp.compare_eq_iff_eq

/-- What a map with one more entry says. -/
theorem getElem?_insert {β : Type} (m : Std.ExtTreeMap Location β order) (l k : Location) (v : β) :
    (m.insert l v)[k]? = if l = k then some v else m[k]? := by
  rw [Std.ExtTreeMap.getElem?_insert]
  by_cases h : l = k
  · rw [if_pos (order_eq_iff.mpr h), if_pos h]
  · rw [if_neg (fun e => h (order_eq_iff.mp e)), if_neg h]

/-- What a map without some of its entries says. -/
theorem getElem?_filter {β : Type} (m : Std.ExtTreeMap Location β order) (f : Location → Bool)
    (k : Location) : (m.filter fun l _ => f l)[k]? = if f k then m[k]? else none := by
  rw [Std.ExtTreeMap.getElem?_filter']
  cases m[k]? <;> cases f k <;> simp [Option.filter]

/-- Whether `inner` is `outer` or stands in it at any depth. -/
def within (outer inner : Location) : Bool := outer.isSuffixOf inner

/-- Whether `inner` stands in `outer` at any depth. -/
def below (outer inner : Location) : Bool := within outer inner && inner != outer

@[simp] theorem within_self (l : Location) : within l l = true := by
  simp [within]

@[simp] theorem below_self (l : Location) : below l l = false := by
  simp [below]

theorem within_iff {outer inner : Location} : within outer inner = true ↔ outer <:+ inner := by
  simp [within]

theorem below_iff {outer inner : Location} :
    below outer inner = true ↔ outer <:+ inner ∧ inner ≠ outer := by
  simp [below, within]

/-- What stands in a location's directory stands in whatever that is in. -/
theorem within_cons {outer here : Location} {name : String} (h : within outer here = true) :
    within outer (name :: here) = true := by
  rw [within_iff] at h ⊢
  exact h.trans (List.suffix_cons _ _)

theorem below_cons {outer here : Location} {name : String} (h : below outer here = true) :
    below outer (name :: here) = true := by
  rw [below_iff] at h ⊢
  refine ⟨h.1.trans (List.suffix_cons _ _), fun e => ?_⟩
  have hlen := h.1.length_le
  rw [← e, List.length_cons] at hlen
  omega

theorem not_below_nil (outer : Location) : below outer [] = false := by
  cases outer <;> simp [below, within]

end Location

/-! ## §2 Trees -/

/-- What can be at a location. -/
inductive Node where
  | dir
  | file (contents : Contents)
deriving DecidableEq

/-- The files and directories of a disk. -/
structure FileTree where
  nodes : Std.ExtTreeMap Location Node Location.order
  root_dir : nodes[([] : Location)]? = some .dir
  /-- whatever is somewhere stands in a directory -/
  parent_dir : ∀ (name : String) (here : Location),
    nodes[name :: here]? ≠ none → nodes[here]? = some .dir

namespace FileTree

/-- What is at a location. -/
def node? (t : FileTree) (l : Location) : Option Node := t.nodes[l]?

def isDirAt (t : FileTree) (l : Location) : Bool := t.node? l == some .dir

@[simp] theorem node?_nil (t : FileTree) : t.node? [] = some .dir := t.root_dir

theorem node?_parent {t : FileTree} {name : String} {here : Location}
    (h : t.node? (name :: here) ≠ none) : t.node? here = some .dir :=
  t.parent_dir name here h

/-- Trees are equal if the same things are at the same locations. -/
theorem ext {a b : FileTree} (h : ∀ l, a.node? l = b.node? l) : a = b := by
  obtain ⟨m, _, _⟩ := a
  obtain ⟨n, _, _⟩ := b
  have : m = n := Std.ExtTreeMap.ext_getElem? h
  subst this
  rfl

/-- The tree of nothing but the root. -/
def empty : FileTree where
  nodes := (∅ : Std.ExtTreeMap Location Node Location.order).insert [] .dir
  root_dir := by rw [Location.getElem?_insert, if_pos rfl]
  parent_dir := by
    intro name here h
    rw [Location.getElem?_insert, if_neg (by simp), Std.ExtTreeMap.getElem?_empty] at h
    exact absurd rfl h

/-- Everything in the tree, in the order of locations. -/
def toList (t : FileTree) : List (Location × Node) := t.nodes.toList

/-! ## §3 Changes -/

/-- Whether a node can be put at a location: it stands in a directory, and it
does not take the place of one unless it is one. -/
def Admits (t : FileTree) (l : Location) (node : Node) : Prop :=
  l ≠ [] ∧ t.node? l.tail = some .dir ∧ (node = .dir ∨ t.node? l ≠ some .dir)

instance (t : FileTree) (l : Location) (node : Node) : Decidable (t.Admits l node) := by
  unfold Admits
  infer_instance

/-- The tree with a node put at a location; unchanged if it cannot be there. -/
def put (t : FileTree) (l : Location) (node : Node) : FileTree :=
  if h : t.Admits l node then
    { nodes := t.nodes.insert l node
      root_dir := by rw [Location.getElem?_insert, if_neg h.1, t.root_dir]
      parent_dir := by
        intro name here hn
        rw [Location.getElem?_insert] at hn ⊢
        by_cases hl : l = name :: here
        · subst hl
          rw [if_neg (by simp)]
          exact h.2.1
        · rw [if_neg hl] at hn
          have hp := t.parent_dir name here hn
          by_cases hh : l = here
          · rcases h.2.2 with hd | hd
            · rw [if_pos hh, hd]
            · exact absurd (by rw [hh]; exact hp) hd
          · rw [if_neg hh, hp] }
  else t

theorem node?_put {t : FileTree} {l : Location} {node : Node} (h : t.Admits l node)
    (m : Location) : (t.put l node).node? m = if m = l then some node else t.node? m := by
  unfold put
  rw [dif_pos h]
  unfold node?
  rw [Location.getElem?_insert]
  by_cases hm : m = l
  · rw [if_pos hm.symm, if_pos hm]
  · rw [if_neg (Ne.symm hm), if_neg hm]

theorem put_of_not_admits {t : FileTree} {l : Location} {node : Node} (h : ¬ t.Admits l node) :
    t.put l node = t := by
  unfold put
  rw [dif_neg h]

/-- Putting a node somewhere changes nothing elsewhere. -/
theorem node?_put_of_ne {t : FileTree} {l m : Location} {node : Node} (h : m ≠ l) :
    (t.put l node).node? m = t.node? m := by
  by_cases ha : t.Admits l node
  · simp [node?_put ha, h]
  · rw [put_of_not_admits ha]

/-- The tree without what `doomed` says, which must go with all that is in it
and must not be the root. -/
def discard (t : FileTree) (doomed : Location → Bool) (h₀ : doomed [] = false)
    (h : ∀ name here, doomed here = true → doomed (name :: here) = true) : FileTree where
  nodes := t.nodes.filter fun l _ => !doomed l
  root_dir := by
    rw [Location.getElem?_filter t.nodes fun l => !doomed l, h₀]
    exact t.root_dir
  parent_dir := by
    intro name here hn
    rw [Location.getElem?_filter t.nodes fun l => !doomed l] at hn ⊢
    cases hd : doomed here with
    | true =>
      rw [h name here hd] at hn
      exact absurd rfl hn
    | false =>
      refine t.parent_dir name here fun hc => hn ?_
      rw [hc]
      exact ite_self none

theorem node?_discard {t : FileTree} {doomed : Location → Bool} {h₀ : doomed [] = false}
    {h : ∀ name here, doomed here = true → doomed (name :: here) = true} (l : Location) :
    (t.discard doomed h₀ h).node? l = if doomed l then none else t.node? l := by
  unfold node? discard
  rw [Location.getElem?_filter t.nodes fun l => !doomed l]
  cases doomed l <;> rfl

/-- The tree without what stands in a directory, which is left empty. -/
def clear (t : FileTree) (l : Location) : FileTree :=
  t.discard (Location.below l) (Location.not_below_nil l) fun _ _ h => Location.below_cons h

@[simp] theorem node?_clear (t : FileTree) (l m : Location) :
    (t.clear l).node? m = if Location.below l m then none else t.node? m :=
  node?_discard m

/-- The tree without what is at a location and in it; the root cannot go. -/
def remove (t : FileTree) (l : Location) : FileTree :=
  if h : l = [] then t
  else
    t.discard (Location.within l) (by cases l with
      | nil => exact absurd rfl h
      | cons a b => simp [Location.within])
      fun _ _ h => Location.within_cons h

theorem node?_remove {t : FileTree} {l : Location} (h : l ≠ []) (m : Location) :
    (t.remove l).node? m = if Location.within l m then none else t.node? m := by
  unfold remove
  rw [dif_neg h]
  exact node?_discard m

end FileTree

end ReleaseKit
