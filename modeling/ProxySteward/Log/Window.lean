import ProxySteward.Log.Entry

/-!
# The window on the log

The last entries of a log, at most as many as the window has room for.  `LogWindow.push_entries` is
the view of a push: the entries afterwards are the last ones of the entries before and the new one.
-/

namespace ProxySteward

/-- The last entries of a log. -/
structure LogWindow where
  capacity : Nat
  entries : List LogEntry
  deriving DecidableEq, Repr

namespace LogWindow

/-- A window without entries. -/
def empty (capacity : Nat) : LogWindow := ⟨capacity, []⟩

/-- The window after one more entry: the oldest entries leave when there is no room. -/
def push (w : LogWindow) (e : LogEntry) : LogWindow :=
  if w.capacity = 0 then w
  else { w with entries := w.entries.drop (w.entries.length + 1 - w.capacity) ++ [e] }

@[simp] theorem capacity_push (w : LogWindow) (e : LogEntry) :
    (w.push e).capacity = w.capacity := by
  unfold push; split <;> rfl

/-- A push appends the entry and drops what exceeds the room from the front. -/
theorem push_entries (w : LogWindow) (e : LogEntry) (h : w.entries.length ≤ w.capacity) :
    (w.push e).entries =
      (w.entries ++ [e]).drop ((w.entries ++ [e]).length - w.capacity) := by
  unfold push
  split
  · next h0 =>
    have : w.entries = [] := List.length_eq_zero_iff.1 (by omega)
    simp [h0, this]
  · rw [List.length_append, List.length_singleton, List.drop_append_of_le_length (by omega)]

end LogWindow
end ProxySteward
