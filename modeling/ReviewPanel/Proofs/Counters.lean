import Mathlib.Algebra.BigOperators.Group.List.Basic
import ReviewPanel.Session

/-!
# Counters — adding up

Counters add up, each by itself and modulo `2 ^ 64`, and whether anything was
counted adds up to whether it ever was. What is counted one use after the other
is the sum of what each use counts alone, so the order of uses does not matter.

* `ofUsage_append`          — two sequences of uses, one after the other.
* `Session.counters_append` — what an agent counted in a longer session.
-/

namespace ReviewPanel

namespace Counters

variable {a b c : Counters}

instance : Zero Counters := ⟨zero⟩

instance : Add Counters :=
  ⟨fun a b =>
    ⟨a.analyses + b.analyses, a.failures + b.failures, a.issuesReported + b.issuesReported,
      a.chats + b.chats, a.testsGenerated + b.testsGenerated, a.hasRun || b.hasRun⟩⟩

theorem zero_def : (0 : Counters) = ⟨0, 0, 0, 0, 0, false⟩ := rfl

theorem add_def : a + b =
    ⟨a.analyses + b.analyses, a.failures + b.failures, a.issuesReported + b.issuesReported,
      a.chats + b.chats, a.testsGenerated + b.testsGenerated, a.hasRun || b.hasRun⟩ := rfl

/-- Counters add up field by field, as the fields do. -/
instance : AddCommMonoid Counters where
  add_assoc a b c := by simp only [add_def, UInt64.add_assoc, Bool.or_assoc]
  zero_add a := by simp only [zero_def, add_def, UInt64.zero_add, Bool.false_or]
  add_zero a := by simp only [zero_def, add_def, UInt64.add_zero, Bool.or_false]
  add_comm a b := by
    simp only [add_def, UInt64.add_comm b.analyses, UInt64.add_comm b.failures,
      UInt64.add_comm b.issuesReported, UInt64.add_comm b.chats,
      UInt64.add_comm b.testsGenerated, Bool.or_comm b.hasRun]
  nsmul := nsmulRec

/-- Counting a use adds what it counts alone. -/
theorem record_eq_add (c : Counters) (u : Usage) : c.record u = c + zero.record u := by
  cases u <;>
    simp only [record, zero, add_def, UInt64.zero_add, UInt64.add_zero, Bool.or_true]

/-- Uses are counted on top of what was counted before. -/
theorem foldl_record (uses : List Usage) : ∀ c, uses.foldl record c = c + ofUsage uses := by
  -- for any start: the first use is part of the start of the others
  induction uses with
  | nil => exact fun c => (add_zero c).symm
  | cons u rest ih =>
    intro c
    have hRest : ofUsage (u :: rest) = zero.record u + ofUsage rest := ih _
    rw [List.foldl_cons, ih, hRest, record_eq_add, add_assoc]

/-- What is counted of two runs of notes is added up. -/
theorem ofUsage_append {before after : List Usage} :
    ofUsage (before ++ after) = ofUsage before + ofUsage after := by
  rw [ofUsage, List.foldl_append, foldl_record]
  rfl

end Counters

namespace Session

variable {s : Session} {events before after : List Event} {agent : Nat}

theorem append_nil : s.append [] = s := by
  rw [append, List.append_nil]

/-- Events are recorded one by one, so together or in two parts. -/
theorem append_append : (s.append before).append after = s.append (before ++ after) := by
  simp only [append, List.append_assoc]

/-- An agent counts on top of what it counted before. -/
theorem counters_append :
    (s.append events).counters agent = s.counters agent + counters ⟨events⟩ agent := by
  simp only [counters, usage, append, List.filter_append, List.flatMap_append,
    Counters.ofUsage_append]

end Session

end ReviewPanel
