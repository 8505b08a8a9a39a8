import Mathlib.Data.List.Basic
import StoryEngine.Proofs.Session.Halting
import StoryEngine.Proofs.Session.Pauses
import StoryEngine.Proofs.Text.Pieces

/-! # Whose timers are cancelled

The timer that holds a run is named by the script and the number of the run. A run that ends cancels
its timer and every one whose name goes on with an underscore behind it, and the name of a script
may begin in just this way: the timer of such a run is cancelled with that of the other.
-/

namespace StoryEngine

set_option autoImplicit false

namespace Timers

theorem inWaitScope_iff {scope name : String} : inWaitScope scope name = true ↔
    name.toList = (scope ++ waitMark).toList ∨
      (scope ++ waitMark).toList ++ ['_'] <+: name.toList := by
  rw [inWaitScope]
  split
  · next h =>
    rw [Text.afterStart?_eq_some_iff, List.append_nil] at h
    exact iff_of_true rfl (.inl h.symm)
  · next c rest h =>
    rw [Text.afterStart?_eq_some_iff] at h
    rw [← h, beq_iff_eq, List.prefix_append_right_inj, List.cons_prefix_cons,
      and_iff_left List.nil_prefix, List.append_right_eq_self,
      or_iff_right (List.cons_ne_nil c rest), eq_comm]
  · next h =>
    rw [Text.afterStart?_eq_none_iff] at h
    refine iff_of_false Bool.false_ne_true ?_
    rintro (heq | hprefix)
    · exact h (heq ▸ List.prefix_rfl)
    · exact h ((List.prefix_append _ _).trans hprefix)

theorem get?_cancelWaitScope_of_outside (timers : Timers) {scope name : String}
    (h : inWaitScope scope name = false) :
    (timers.cancelWaitScope scope).get? name = timers.get? name := by
  rw [cancelWaitScope, StringMap.get?_filter, h]
  cases timers.get? name <;> rfl

end Timers

namespace Run

theorem toList_timerScope (run : Run) :
    run.timerScope.toList = run.script.toList ++ '#' :: Nat.toDigits 10 run.id := by
  have hscope : run.timerScope = run.script ++ "#" ++ Nat.repr run.id := rfl
  rw [hscope, String.toList_append, String.toList_append, List.append_assoc]
  simp

theorem isDigit_of_mem_number {n : Nat} {c : Char} (h : c ∈ Nat.toDigits 10 n) : c.isDigit = true :=
  Nat.isDigit_of_mem_toDigits (by decide) (by decide) h

theorem not_mem_number {c : Char} (hc : c.isDigit = false) (n : Nat) : c ∉ Nat.toDigits 10 n := by
  intro h
  rw [isDigit_of_mem_number h] at hc
  cases hc

/-- A scope ends in the number of its run. -/
theorem id_eq_of_timerScope_eq {run other : Run} (h : run.timerScope = other.timerScope) :
    run.id = other.id := by
  have hlists := congrArg String.toList h
  rw [toList_timerScope, toList_timerScope] at hlists
  obtain ⟨-, hnumber⟩ :=
    Text.eq_of_last_mark (not_mem_number rfl run.id) (not_mem_number rfl other.id) hlists
  have hvalue := congrArg (Nat.ofDigitChars 10 · 0) hnumber
  rwa [Nat.ofDigitChars_ten_toDigits, Nat.ofDigitChars_ten_toDigits] at hvalue

/-- The name of the script begins like the wait timer of a run, with an underscore behind it. -/
def BeginsLike (other run : Run) : Prop :=
  ∃ rest, other.script = run.scope.waitTimer ++ "_" ++ rest

theorem beginsLike_iff {run other : Run} : other.BeginsLike run ↔
    run.scope.waitTimer.toList ++ ['_'] <+: other.script.toList := by
  constructor
  · rintro ⟨rest, h⟩
    refine ⟨rest.toList, ?_⟩
    rw [h, String.toList_append, String.toList_append]
    rfl
  · rintro ⟨rest, h⟩
    refine ⟨.ofList rest, ?_⟩
    rw [← String.toList_inj]
    simpa using h.symm

theorem toList_waitTimer (run : Run) : run.scope.waitTimer.toList =
    run.script.toList ++ ('#' :: Nat.toDigits 10 run.id ++ Timers.waitMark.toList) := by
  have hname : run.scope.waitTimer = run.timerScope ++ Timers.waitMark := rfl
  rw [hname, String.toList_append, toList_timerScope, List.append_assoc, List.cons_append]

/-- The one underscore behind the script's name is that of the mark. -/
theorem front_eq_of_underscore {n : Nat} {front rest : List Char}
    (h : front ++ '_' :: rest = '#' :: Nat.toDigits 10 n ++ Timers.waitMark.toList) :
    front = '#' :: Nat.toDigits 10 n := by
  have hnumber : '_' ∉ '#' :: Nat.toDigits 10 n :=
    List.not_mem_cons_of_ne_of_not_mem (by decide) (not_mem_number rfl n)
  exact ((List.append_cons_inj_of_notMem hnumber (by decide)).mp h.symm).1.symm

/-- The name of a wait timer does not end in the number. -/
theorem waitTimer_ne_number (run : Run) (script : List Char) (n : Nat) :
    run.scope.waitTimer.toList ≠ script ++ '#' :: Nat.toDigits 10 n := by
  intro h
  have hlast : ('#' :: Nat.toDigits 10 n).getLast? = some 't' := by
    rw [← List.getLast?_append_cons, ← h, toList_waitTimer, ← List.append_assoc,
      List.getLast?_append]
    rfl
  rcases List.mem_cons.mp (List.mem_of_getLast? hlast) with hmark | hnumber
  · cases hmark
  · exact not_mem_number rfl n hnumber

/-- A timer whose name begins like another one, with an underscore behind it, has that beginning in
the name of its script: the number and the mark have no room for it. -/
theorem prefix_waitTimer_iff {run other : Run} :
    run.scope.waitTimer.toList ++ ['_'] <+: other.scope.waitTimer.toList ↔
      other.BeginsLike run := by
  rw [beginsLike_iff, toList_waitTimer other]
  refine ⟨fun h => ?_, fun h => h.trans (List.prefix_append _ _)⟩
  rcases List.prefix_or_prefix_of_prefix h (List.prefix_append _ _) with hin | ⟨more, hmore⟩
  · exact hin
  · rcases List.eq_nil_or_concat' more with rfl | ⟨front, last, rfl⟩
    · rw [List.append_nil] at hmore
      exact hmore ▸ List.prefix_rfl
    · obtain ⟨rest, hrest⟩ := h
      rw [← hmore, List.append_assoc, List.append_cancel_left_eq, List.append_assoc] at hrest
      rw [← List.append_assoc] at hmore
      obtain ⟨hname, hlast⟩ := List.append_inj' hmore rfl
      cases hlast
      rw [front_eq_of_underscore hrest] at hname
      exact absurd hname.symm (waitTimer_ne_number run _ _)

theorem waitTimer_inj {run other : Run} (h : run.scope.waitTimer = other.scope.waitTimer) :
    run.timerScope = other.timerScope := by
  have hlists := congrArg String.toList h
  rw [Scope.waitTimer, Scope.waitTimer, String.toList_append, String.toList_append] at hlists
  exact String.toList_inj.mp (List.append_cancel_right hlists)

theorem inWaitScope_waitTimer_iff {run other : Run} (hids : run.id ≠ other.id) :
    Timers.inWaitScope run.timerScope other.scope.waitTimer = true ↔ other.BeginsLike run := by
  rw [Timers.inWaitScope_iff, ← prefix_waitTimer_iff]
  refine or_iff_right fun hname => hids ?_
  exact (id_eq_of_timerScope_eq (waitTimer_inj (String.toList_inj.mp hname))).symm

/-- Cancelling what belongs to a run takes its own wait timer away, and leaves that of a run with
another number as it is exactly if the script of that run does not begin with the name of the first
timer and an underscore. -/
theorem wait_timer_spared_iff (run other : Run) (hids : run.id ≠ other.id) (timers : Timers)
    (hheld : timers.contains other.scope.waitTimer = true) :
    let after := timers.cancelWaitScope run.timerScope
    after.contains run.scope.waitTimer = false ∧
      (after.get? other.scope.waitTimer = timers.get? other.scope.waitTimer ↔
        ¬other.BeginsLike run) := by
  intro after
  have hown := Timers.get?_cancelWaitScope timers (Timers.inWaitScope_waitMark run.timerScope)
  refine ⟨congrArg Option.isSome hown, ?_⟩
  rw [← inWaitScope_waitTimer_iff hids, Bool.not_eq_true]
  constructor
  · intro hkept
    refine Bool.eq_false_iff.mpr fun hin => ?_
    rw [Timers.get?_cancelWaitScope timers hin] at hkept
    rw [StringMap.contains, ← hkept] at hheld
    cases hheld
  · intro hout
    exact Timers.get?_cancelWaitScope_of_outside timers hout

/-- The script of the later run begins with the name of the first timer, but no underscore follows
there. -/
theorem waiting_script_keeps_its_timer :
    let run : Run := ⟨"intro", 1, 0, 1, none, .map, none, .opened, none⟩
    let other : Run := { run with script := "intro#1_waiting", id := 10 }
    let timers := (Timers.start ∅ run.scope.waitTimer 500 0).start other.scope.waitTimer 700 0
    run.id ≠ other.id ∧ timers.contains other.scope.waitTimer = true ∧
      (timers.cancelWaitScope run.timerScope).contains run.scope.waitTimer = false ∧
      (timers.cancelWaitScope run.timerScope).get? other.scope.waitTimer = some ⟨0, 700⟩ := by
  intro run other timers
  have hids : run.id ≠ other.id := by decide
  have hheld : timers.contains other.scope.waitTimer = true := by decide +kernel
  obtain ⟨hown, hspared⟩ := wait_timer_spared_iff run other hids timers hheld
  have hother : ¬other.BeginsLike run := by
    rw [beginsLike_iff]
    decide +kernel
  exact ⟨hids, hheld, hown, (hspared.mpr hother).trans (by decide +kernel)⟩

/-- With an underscore there, the timer of the later run goes with the other one. -/
theorem wait_script_loses_its_timer :
    let run : Run := ⟨"intro", 1, 0, 1, none, .map, none, .opened, none⟩
    let other : Run := { run with script := "intro#1_wait_here", id := 10 }
    let timers := (Timers.start ∅ run.scope.waitTimer 500 0).start other.scope.waitTimer 700 0
    run.id ≠ other.id ∧ timers.get? other.scope.waitTimer = some ⟨0, 700⟩ ∧
      (timers.cancelWaitScope run.timerScope).get? other.scope.waitTimer = none := by
  decide +kernel

end Run

end StoryEngine
