import Reckoner.Proofs.Builtin.Contract

/-!
Calls by name. Every standard builtin answers to its own name, and what it replies silently is the
value of the call in every session.
-/

namespace Reckoner

namespace Builtin

theorem find?_name {builtin : Builtin} (known : builtin ∈ standard) :
    find? standard builtin.name = some builtin := by
  have small : ∀ builtin ∈ standard, Text.lowercase builtin.name = builtin.name := by
    decide +kernel
  have distinct : (standard.map name).Nodup := by decide +kernel
  obtain ⟨earlier, later, split⟩ := List.append_of_mem known
  rw [find?, small builtin known, List.find?_eq_some_iff_append]
  refine ⟨decide_eq_true rfl, earlier, later, split, ?_⟩
  intro other before
  rw [split, List.map_append, List.map_cons] at distinct
  have apart := (List.nodup_append.mp distinct).2.2 _ (List.mem_map_of_mem before) builtin.name
    List.mem_cons_self
  simp [apart]

end Builtin

namespace Evaluation

open Builtin

/-- A call by name has the value in every session, prints nothing and binds nothing. -/
def Yields (name : String) (arguments : List Value) (value : Value) : Prop :=
  ∀ place session, call standard name place arguments session =
    (.ok value, session.note (.called name arguments.length))

theorem Yields.unique {name : String} {arguments : List Value} {value other : Value}
    (yields : Yields name arguments value) (yieldsOther : Yields name arguments other) :
    value = other := by
  have same := (yields .nowhere .fresh).symm.trans (yieldsOther .nowhere .fresh)
  exact Except.ok.inj (congrArg Prod.fst same)

theorem yields_of_reply {builtin : Builtin} (known : builtin ∈ standard) {arguments : List Value}
    (enough : builtin.least ≤ arguments.length) {value : Value}
    (replied : builtin.reply arguments = .ok (silently value)) :
    Yields builtin.name arguments value := by
  intro place session
  have silent (session : Session) : session.print "" = session := by simp [Session.print]
  rw [call, find?_name known]
  dsimp only
  rw [invoke_of_ok session enough replied, silent]

end Evaluation

end Reckoner
