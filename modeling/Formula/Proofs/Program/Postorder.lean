import Mathlib.Data.List.FinRange
import Mathlib.Data.List.Induction
import Formula.Proofs.Program.Inspection
import Formula.Proofs.Tree

/-!
Programs that are valid by their number of values are the postorders of trees, each of one tree
only. While a program is checked, the values that it would hold are those of trees beside each
other, and these trees are told by the items that have been checked.
-/

set_option autoImplicit false

namespace Formula

def postorders (trees : List Tree) : List Item := trees.flatMap Tree.postorder

theorem postorders_append (trees trees' : List Tree) :
    postorders (trees ++ trees') = postorders trees ++ postorders trees' :=
  List.flatMap_append

theorem Tree.postorder_node (i : Item) (children : Fin i.count → Tree) :
    (node i children).postorder = postorders (List.ofFn children) ++ [i] := by
  rw [postorder, postorders, List.ofFn_eq_map, List.flatMap_map]

/-! ### Trees are valid -/

section
variable {isBound : String → Bool}

theorem Item.complaints_of_bound (bound : ∀ name, isBound name = true) {i : Item} {depth : Int}
    (enough : i.count ≤ depth) : i.complaints isBound depth = [] := by
  obtain fine | ⟨name, _, unbound, _⟩ := Item.complaints_of_enough isBound enough
  · exact fine
  · rw [bound name] at unbound
    cases unbound

theorem inspect_item (bound : ∀ name, isBound name = true) {i : Item} {depth : Int}
    (enough : i.count ≤ depth) :
    inspect isBound depth [i] = ([], some (depth + 1 - i.count)) := by
  rw [inspect_cons_of_enough enough, Item.complaints_of_bound bound enough, i.depthBehind_eq]
  rfl

theorem inspect_postorders {trees : List Tree}
    (each : ∀ t ∈ trees, ∀ depth : Int, 0 ≤ depth →
      inspect isBound depth t.postorder = ([], some (depth + 1)))
    {depth : Int} (nonneg : 0 ≤ depth) :
    inspect isBound depth (postorders trees) = ([], some (depth + trees.length)) := by
  induction trees generalizing depth with
  | nil => simp [postorders, inspect]
  | cons t trees ih =>
    have first := each t List.mem_cons_self depth nonneg
    have others := ih (fun t' member => each t' (List.mem_cons_of_mem t member))
      (Int.le_add_one nonneg)
    rw [postorders, List.flatMap_cons, inspect_append first, ← postorders, others,
      List.length_cons, List.nil_append, Int.natCast_add, Int.add_right_comm, Int.add_assoc]
    rfl

theorem inspect_postorder (bound : ∀ name, isBound name = true) (t : Tree) {depth : Int}
    (nonneg : 0 ≤ depth) : inspect isBound depth t.postorder = ([], some (depth + 1)) := by
  induction t generalizing depth with
  | node i children ih =>
    have each : ∀ t ∈ List.ofFn children, ∀ depth : Int, 0 ≤ depth →
        inspect isBound depth t.postorder = ([], some (depth + 1)) := by
      intro t member depth' nonneg'
      obtain ⟨k, rfl⟩ := List.mem_ofFn.1 member
      exact ih k nonneg'
    have below := inspect_postorders each nonneg
    rw [List.length_ofFn] at below
    have enough : (i.count : Int) ≤ depth + i.count := by omega
    rw [Tree.postorder_node, inspect_append below, inspect_item bound enough]
    simp only [List.append_nil, Prod.mk.injEq, Option.some.injEq, true_and]
    omega

/-! ### Valid programs are trees -/

theorem exists_children {n : Nat} {trees : List Tree} (enough : trees.length = n) :
    ∃ children : Fin n → Tree, List.ofFn children = trees := by
  subst enough
  exact ⟨trees.get, List.ofFn_get trees⟩

/-- Items that are fine behind the items of some trees make up trees with them, one for each value
that is left. -/
theorem exists_trees {items : List Item} {trees : List Tree} {depth : Int}
    (fine : inspect isBound trees.length items = ([], some depth)) :
    ∃ trees' : List Tree, (trees'.length : Int) = depth ∧
      postorders trees' = postorders trees ++ items := by
  induction items generalizing trees with
  | nil =>
    cases fine
    exact ⟨trees, rfl, (List.append_nil _).symm⟩
  | cons i items ih =>
    -- The item takes the latest trees as its children.
    have enough := enough_of_inspect fine
    have many : (trees.drop (trees.length - i.count)).length = i.count := by
      rw [List.length_drop]
      omega
    obtain ⟨children, taken⟩ := exists_children many
    rw [inspect_cons_of_enough enough, Prod.mk.injEq, List.append_eq_nil_iff] at fine
    obtain ⟨⟨_, fine⟩, final⟩ := fine
    have left : ((trees.take (trees.length - i.count) ++ [Tree.node i children]).length : Int) =
        i.depthBehind trees.length := by
      rw [i.depthBehind_eq, List.length_append, List.length_take, List.length_singleton]
      omega
    rw [← left] at fine final
    obtain ⟨trees', length, same⟩ := ih (Prod.ext fine final)
    refine ⟨trees', length, ?_⟩
    calc postorders trees'
        = postorders (trees.take (trees.length - i.count)) ++
            (Tree.node i children).postorder ++ items := by
          rw [same, postorders_append]
          simp [postorders]
      _ = postorders (trees.take (trees.length - i.count) ++
            trees.drop (trees.length - i.count)) ++ i :: items := by
          rw [Tree.postorder_node, taken, postorders_append]
          simp
      _ = postorders trees ++ i :: items := by rw [List.take_append_drop]

end

/-! ### One tree only -/

/-- The last item is the root of the last tree, and the items before it are those of the other trees
and of its children. -/
theorem exists_root {trees : List Tree} {items : List Item} {i : Item}
    (same : postorders trees = items ++ [i]) :
    ∃ others, ∃ children : Fin i.count → Tree,
      trees = others ++ [Tree.node i children] ∧
        postorders (others ++ List.ofFn children) = items := by
  rcases List.eq_nil_or_concat' trees with rfl | ⟨others, ⟨root, children⟩, rfl⟩
  · cases items <;> cases same
  · rw [postorders_append, postorders, postorders, List.flatMap_singleton, Tree.postorder_node,
      ← List.append_assoc] at same
    obtain ⟨front, last⟩ := List.append_inj' same rfl
    cases last
    exact ⟨others, children, rfl, (postorders_append _ _).trans front⟩

theorem postorders_injective : Function.Injective postorders := by
  intro trees trees' same
  -- Without its last item the list belongs to the same trees with the last one cut open.
  generalize whole : postorders trees' = items at same
  induction items using List.reverseRecOn generalizing trees trees' with
  | nil =>
    have nothing : ∀ {trees : List Tree}, postorders trees = [] → trees = [] := by
      intro trees noneLeft
      rw [postorders, List.flatMap_eq_nil_iff] at noneLeft
      cases trees with
      | nil => rfl
      | cons t trees => exact absurd (noneLeft t List.mem_cons_self) t.postorder_ne_nil
    rw [nothing same, nothing whole]
  | append_singleton items i ih =>
    obtain ⟨others, children, rfl, front⟩ := exists_root same
    obtain ⟨others', children', rfl, front'⟩ := exists_root whole
    obtain ⟨rfl, subtrees⟩ := List.append_inj' (ih front front') (by simp)
    rw [List.ofFn_injective subtrees]

theorem postorder_injective : Function.Injective Tree.postorder := by
  intro t t' same
  have alone : postorders [t] = postorders [t'] := by simpa [postorders] using same
  exact List.singleton_inj.1 (postorders_injective alone)

/-- A program is valid by its number of values exactly if it is the postorder of a tree, in which
every item has as many subtrees as it takes values, and no other tree has this postorder. -/
theorem valid_iff_postorder (items : List Item) (bindings : Bindings) :
    (validate items bindings false = [] ↔ ∃ t : Tree, t.postorder = items) ∧
      Function.Injective Tree.postorder := by
  have bound : ∀ name, countsAsBound bindings false name = true := fun _ => rfl
  refine ⟨?_, postorder_injective⟩
  rw [validate_eq_nil_iff]
  constructor
  · intro fine
    have nothing : (([] : List Tree).length : Int) = 0 := rfl
    obtain ⟨trees, length, same⟩ := exists_trees (nothing ▸ fine)
    obtain ⟨t, rfl⟩ := List.length_eq_one_iff.1 (Int.ofNat_inj.1 length)
    exact ⟨t, by simpa [postorders] using same⟩
  · rintro ⟨t, rfl⟩
    exact inspect_postorder bound t (Int.le_refl 0)

end Formula
