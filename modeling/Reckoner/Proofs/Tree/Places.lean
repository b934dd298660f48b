import Reckoner.Proofs.Token.Places
import Reckoner.Proofs.Tree.RoundTrip
import Reckoner.Proofs.Tree.Shape
import Reckoner.Tree.Json

/-!
Where tokens stand does not decide what derives from them. Tokens of the same kinds and texts derive
the same trees, but for the places of the nodes, which have no part in the shape of a tree.
-/

namespace Reckoner

open Token

namespace Tree

theorem of_unplaced {tree : Tree} {kind : NodeKind} {label : Label} {children : List Tree}
    (same : tree.unplaced = .node kind label .nowhere children) :
    ∃ place parts, tree = .node kind label place parts ∧ unplacedAll parts = children := by
  obtain ⟨_, _, place, parts⟩ := tree
  rw [unplaced, node.injEq] at same
  obtain ⟨rfl, rfl, _, rfl⟩ := same
  exact ⟨place, parts, rfl, rfl⟩

theorem of_unplacedAll {trees rest : List Tree} {tree : Tree}
    (same : unplacedAll trees = tree :: rest) :
    ∃ first others, trees = first :: others ∧ first.unplaced = tree ∧
      unplacedAll others = rest := by
  cases trees with
  | nil => simp [unplacedAll] at same
  | cons first others => exact ⟨first, others, rfl, List.cons.inj same⟩

theorem depth_unplaced (tree : Tree) : tree.unplaced.record.depth = tree.record.depth := by
  induction tree using Tree.induction with
  | node kind label place children below =>
      have inner : Record.depthAll (recordAll (unplacedAll children)) =
          Record.depthAll (recordAll children) := by
        induction children with
        | nil => rfl
        | cons child rest ih =>
            have others := ih fun other member => below other (by simp [member])
            rw [unplacedAll, recordAll, recordAll, Record.depthAll, Record.depthAll,
              below child (by simp), others]
      rw [unplaced, record, record, Record.depth, Record.depth, inner]

theorem exists_single {P : List Tree → Prop} {tree : Tree}
    (found : ∃ placed, P placed ∧ unplacedAll placed = unplacedAll [tree]) :
    ∃ placed, P [placed] ∧ placed.unplaced = tree.unplaced := by
  obtain ⟨trees, holds, same⟩ := found
  match trees with
  | [] => simp [unplacedAll] at same
  | [placed] => exact ⟨placed, holds, (List.cons.inj same).1⟩
  | _ :: _ :: _ => simp [unplacedAll] at same

end Tree

namespace Grammar

theorem Derives.moved {budget : Nat} {phrase : Phrase} {tokens others : List Token}
    {trees : List Tree} (derivation : Derives budget phrase tokens trees)
    (moved : Moved tokens others) :
    ∃ placed, Derives budget phrase others placed ∧
      Tree.unplacedAll placed = Tree.unplacedAll trees := by
  induction derivation generalizing others with
  | operand beyond _ ih =>
      obtain ⟨placed, derived, unplaced⟩ := Tree.exists_single (ih moved)
      exact ⟨_, .operand beyond derived, by simp [Tree.unplacedAll, unplaced]⟩
  | tighter _ ih =>
      obtain ⟨placed, derived, unplaced⟩ := Tree.exists_single (ih moved)
      exact ⟨_, .tighter derived, by simp [Tree.unplacedAll, unplaced]⟩
  | plain _ ih =>
      obtain ⟨placed, derived, unplaced⟩ := Tree.exists_single (ih moved)
      exact ⟨_, .plain derived, by simp [Tree.unplacedAll, unplaced]⟩
  | argument _ ih =>
      obtain ⟨placed, derived, unplaced⟩ := Tree.exists_single (ih moved)
      exact ⟨_, .argument derived, by simp [Tree.unplacedAll, unplaced]⟩
  | joined found level _ _ ihLeft ihRight =>
      simp only [moved_append, moved_cons] at moved
      obtain ⟨front, _, rfl, movedLeft, token, back, rfl, ⟨kind, _⟩, movedRight⟩ := moved
      obtain ⟨left, derivedLeft, unplacedLeft⟩ := Tree.exists_single (ihLeft movedLeft)
      obtain ⟨right, derivedRight, unplacedRight⟩ := Tree.exists_single (ihRight movedRight)
      rw [← kind] at found
      refine ⟨_, .joined found level derivedLeft derivedRight, ?_⟩
      simp [Tree.unplacedAll, Tree.unplaced, unplacedLeft, unplacedRight]
  | signed found _ ih =>
      simp only [moved_cons] at moved
      obtain ⟨token, later, rfl, ⟨kind, _⟩, moved⟩ := moved
      obtain ⟨placed, derived, unplaced⟩ := Tree.exists_single (ih moved)
      rw [← kind] at found
      refine ⟨_, .signed found derived, ?_⟩
      simp [Tree.unplacedAll, Tree.unplaced, unplaced]
  | number kind read =>
      simp only [moved_cons, moved_nil] at moved
      obtain ⟨token, _, rfl, ⟨sameKind, sameText⟩, rfl⟩ := moved
      rw [← sameKind] at kind
      rw [← sameText] at read
      exact ⟨_, .number kind read, rfl⟩
  | text kind =>
      simp only [moved_cons, moved_nil] at moved
      obtain ⟨token, _, rfl, ⟨sameKind, sameText⟩, rfl⟩ := moved
      rw [← sameKind] at kind
      exact ⟨_, .text kind, by rw [sameText]; rfl⟩
  | truth kind literal =>
      simp only [moved_cons, moved_nil] at moved
      obtain ⟨token, _, rfl, ⟨sameKind, sameText⟩, rfl⟩ := moved
      rw [← sameKind] at kind
      rw [← sameText] at literal
      exact ⟨_, .truth kind literal, rfl⟩
  | name kind literal =>
      simp only [moved_cons, moved_nil] at moved
      obtain ⟨token, _, rfl, ⟨sameKind, sameText⟩, rfl⟩ := moved
      rw [← sameKind] at kind
      rw [← sameText] at literal
      exact ⟨_, .name kind literal, by rw [sameText]; rfl⟩
  | emptyCall callee opening closing =>
      simp only [moved_cons, moved_nil] at moved
      obtain ⟨token, _, rfl, ⟨sameKind, sameText⟩, first, _, rfl, ⟨opens, _⟩, last, _, rfl,
        ⟨closes, _⟩, rfl⟩ := moved
      rw [← sameKind] at callee
      rw [← opens] at opening
      rw [← closes] at closing
      exact ⟨_, .emptyCall callee opening closing, by rw [sameText]; rfl⟩
  | call callee opening closing _ ih =>
      simp only [List.cons_append, moved_cons, moved_append, moved_nil] at moved
      obtain ⟨token, _, rfl, ⟨sameKind, sameText⟩, first, _, rfl, ⟨opens, _⟩, inner, _, rfl,
        moved, last, _, rfl, ⟨closes, _⟩, rfl⟩ := moved
      obtain ⟨placed, derived, same⟩ := ih moved
      rw [← sameKind] at callee
      rw [← opens] at opening
      rw [← closes] at closing
      refine ⟨_, .call callee opening closing derived, ?_⟩
      simp [Tree.unplacedAll, Tree.unplaced, sameText, same]
  | group opening closing _ ih =>
      simp only [List.cons_append, moved_cons, moved_append, moved_nil] at moved
      obtain ⟨first, _, rfl, ⟨opens, _⟩, inner, _, rfl, moved, last, _, rfl, ⟨closes, _⟩, rfl⟩ :=
        moved
      obtain ⟨placed, derived, unplaced⟩ := Tree.exists_single (ih moved)
      rw [← opens] at opening
      rw [← closes] at closing
      exact ⟨_, .group opening closing derived, by simp [Tree.unplacedAll, unplaced]⟩
  | further comma _ _ ihFirst ihRest =>
      simp only [moved_append, moved_cons] at moved
      obtain ⟨front, _, rfl, movedFirst, token, back, rfl, ⟨kind, _⟩, movedRest⟩ := moved
      obtain ⟨first, derivedFirst, unplaced⟩ := Tree.exists_single (ihFirst movedFirst)
      obtain ⟨others, derivedRest, sameRest⟩ := ihRest movedRest
      rw [← kind] at comma
      refine ⟨_, .further comma derivedFirst derivedRest, ?_⟩
      simp [Tree.unplacedAll, unplaced, sameRest]

end Grammar

end Reckoner
