import Reckoner.Bindings

/-!
Reading and writing bindings. A name that was set has its new value, under every spelling of the
name, and all other names keep theirs.
-/

namespace Reckoner

namespace Bindings

theorem lookup_entry (first key : String) (value : Value) (rest : List (String × Value)) :
    ((first, value) :: rest).lookup key = if first = key then some value else rest.lookup key := by
  by_cases same : first = key
  · simp [same]
  · have different : (key == first) = false := beq_false_of_ne (Ne.symm same)
    simp [List.lookup_cons, different, same]

theorem lookup_setEntry (kept key : String) (value : Value) (entries : List (String × Value)) :
    (setEntry kept value entries).lookup key =
      if kept = key then some value else entries.lookup key := by
  induction entries with
  | nil => exact lookup_entry kept key value []
  | cons entry rest ih =>
      obtain ⟨first, old⟩ := entry
      by_cases replaced : first = kept
      · subst replaced
        by_cases same : first = key <;> simp [setEntry, lookup_entry, same]
      · by_cases here : first = key
        · subst here
          simp [setEntry, replaced, Ne.symm replaced]
        · simp [setEntry, replaced, lookup_entry, here, ih]

theorem get?_set (bindings : Bindings) (written name : String) (value : Value) :
    (bindings.set written value).get? name =
      if key written = key name then some value else bindings.get? name :=
  lookup_setEntry ..

/-- The same of these names are bound, and to the same values. -/
def AgreeOn (names : List String) (first second : Bindings) : Prop :=
  ∀ name ∈ names, first.get? name = second.get? name

theorem AgreeOn.set {names : List String} {first second : Bindings}
    (agree : AgreeOn names first second) (written : String) (value : Value) :
    AgreeOn names (first.set written value) (second.set written value) := by
  intro name member
  rw [get?_set, get?_set, agree name member]

end Bindings

end Reckoner
