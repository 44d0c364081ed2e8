/-
# Prompts compose

Every line is decoded, answered and forgotten by itself. So when an input has only
whole lines and none of them says to leave, a prompt on this input and more does what
a prompt on the one and then a prompt on the other do, but for the mark in between.
When some whole line says to leave, nothing behind it is looked at.
-/

import LoxLexer.Proofs.Session.Independence
import LoxLexer.Proofs.Text.Lines

namespace LoxLexer

open Procedure

/-- The lines of an input that begins with whole lines. -/
theorem PromptInput.lines_append {first : List UInt8} (closed : Text.Closed 10 first)
    (second : List UInt8) (fault : Option String) :
    lines ⟨first ++ second, fault⟩ = Text.splitAfter 10 first ++ lines ⟨second, fault⟩ := by
  have whole : ∀ line ∈ Text.splitAfter 10 first, decide (line.getLast? = some 10) = true :=
    fun line member => decide_eq_true (Text.getLast?_of_mem_splitAfter closed member)
  simp only [lines, Text.splitAfter_append_of_closed closed]
  split
  · rw [List.filter_append, List.filter_eq_self.mpr whole]
  · rfl

namespace Session

/-! ## One operation after another -/

/-- What an operation does first and what it goes on with are performed one after
the other, and the second finds the session that the first leaves. -/
theorem after_perform_done_bind {α β : Type} (session : Session) (actions : List Action)
    (value : α) (next : α → Procedure β) :
    session.after (Outlet.unlimited.perform (done actions value >>= next : Procedure β)) =
      (session.after (Outlet.unlimited.perform (done actions value))).after
        (Outlet.unlimited.perform (next value)) := by
  rw [Outlet.perform_unlimited_bind]
  simp only [after]
  cases (Outlet.unlimited.perform (next value)).retained <;> rfl

/-! ## Whole lines -/

variable (session : Session) {first : List UInt8}

/-- Whole lines that stay in the prompt are answered, and then the prompt begins anew
with what is behind them. -/
theorem prompt_append (closed : Text.Closed 10 first)
    (stay : ∀ line ∈ Text.splitAfter 10 first, PromptCommand.ofBytes line ≠ .leave)
    (second : List UInt8) (fault : Option String) :
    session.prompt ⟨first ++ second, fault⟩ =
      done ((Text.splitAfter 10 first).flatMap turnActions) () >>= fun _ =>
        session.prompt ⟨second, fault⟩ := by
  rw [prompt, PromptInput.lines_append closed, answerLines_append stay]
  rw [session.prompt_eq (session.afterScanning _)]
  rfl

/-- Lines that come after one that says to leave are not answered. -/
theorem answerLines_append_of_leave {earlier : List (List UInt8)}
    (leaves : ∃ line ∈ earlier, PromptCommand.ofBytes line = .leave) (fault : Option String)
    (later : List (List UInt8)) :
    answerLines fault session (earlier ++ later) = answerLines none session earlier := by
  obtain ⟨line, member, leave⟩ := leaves
  have answeredEarlier : answered (earlier ++ later) = answered earlier := by
    rw [answered, List.takeWhile_append, if_neg]
    · rfl
    · intro whole
      have stay := answered_eq_self_iff.mp ((List.takeWhile_sublist _).eq_of_length whole)
      exact stay line member leave
  have noFault : faultReached fault (earlier ++ later) = none := by
    rw [faultReached, List.any_append, if_pos]
    have left : (earlier.any fun line => PromptCommand.ofBytes line = .leave) = true :=
      List.any_eq_true.mpr ⟨line, member, decide_eq_true leave⟩
    rw [left, Bool.true_or]
  have noFaultEarlier : faultReached none earlier = none := ite_self none
  rw [answerLines_eq, answerLines_eq, answeredEarlier, noFault, noFaultEarlier]

/-- Behind a whole line that says to leave the input may be anything. -/
theorem prompt_append_of_leave
    (leaves : ∃ line ∈ Text.splitAfter 10 first,
      line.getLast? = some 10 ∧ PromptCommand.ofBytes line = .leave)
    (second : List UInt8) (fault alone : Option String) :
    session.prompt ⟨first ++ second, fault⟩ = session.prompt ⟨first, alone⟩ := by
  obtain ⟨line, member, ended, leave⟩ := leaves
  obtain ⟨front, later, rfl, closed, stands⟩ := Text.exists_closed_of_mem_splitAfter member ended
  have left : ∃ line ∈ Text.splitAfter 10 front, PromptCommand.ofBytes line = .leave :=
    ⟨line, stands, leave⟩
  rw [prompt, prompt, List.append_assoc, PromptInput.lines_append closed,
    PromptInput.lines_append closed, answerLines_append_of_leave session left,
    answerLines_append_of_leave session left]

/-! ## Both -/

/-- The prompt on an input without a line only asks for one. -/
theorem prompt_nil :
    session.prompt ⟨[], none⟩ = done [.write promptMark, .log .promptClosed] () :=
  answerLines_nil none session

/-- A prompt on whole lines that stay and on more input does what the two prompts do
one after the other, without the mark between them. A prompt that a whole line leaves
does the same whatever stands behind this line, at any outlet. -/
theorem prompts_compose (first second : List UInt8) (fault : Option String) :
    (Text.Closed 10 first →
      (∀ line ∈ Text.splitAfter 10 first, PromptCommand.ofBytes line ≠ .leave) →
      let one := Outlet.unlimited.perform (session.prompt ⟨first, none⟩)
      let reached := session.after one
      let other := Outlet.unlimited.perform (reached.prompt ⟨second, fault⟩)
      let whole := Outlet.unlimited.perform (session.prompt ⟨first ++ second, fault⟩)
      (∃ written, one.accepted = written ++ Text.Utf8.encode promptMark.toList ∧
        whole.accepted = written ++ other.accepted) ∧
      one.result = .ok () ∧ whole.result = other.result ∧
      session.after whole = reached.after other) ∧
    ((∃ line ∈ Text.splitAfter 10 first,
        line.getLast? = some 10 ∧ PromptCommand.ofBytes line = .leave) →
      ∀ (alone : Option String) (outlet : Outlet),
        outlet.perform (session.prompt ⟨first ++ second, fault⟩) =
          outlet.perform (session.prompt ⟨first, alone⟩)) := by
  constructor
  · intro closed stay one reached other whole
    have continued := session.prompt_append closed stay second fault
    have ended := session.prompt_append closed stay [] none
    rw [List.append_nil, prompt_nil] at ended
    have sameOther : other = Outlet.unlimited.perform (session.prompt ⟨second, fault⟩) :=
      congrArg Outlet.unlimited.perform (reached.prompt_eq session _)
    have asked : (Outlet.unlimited.perform
        (done [.write promptMark, .log .promptClosed] ())).accepted =
          Text.Utf8.encode promptMark.toList := rfl
    refine ⟨⟨(Outlet.unlimited.perform
        (done ((Text.splitAfter 10 first).flatMap turnActions) ())).accepted, ?_, ?_⟩, ?_, ?_, ?_⟩
    · simp only [one, ended, Outlet.perform_unlimited_bind, asked]
    · simp only [whole, sameOther, continued, Outlet.perform_unlimited_bind]
    · exact session.result_prompt first
    · simp only [whole, sameOther, continued, Outlet.perform_unlimited_bind]
    · -- The mark and the closing leave nothing behind.
      have silent (reached : Session) : reached.after (Outlet.unlimited.perform
          (done [.write promptMark, .log .promptClosed] ())) = reached := rfl
      simp only [whole, reached, one, sameOther, continued, ended, after_perform_done_bind, silent]
  · intro leaves alone outlet
    rw [session.prompt_append_of_leave leaves second fault alone]

/-- A stray character, and a call for help that ends with a carriage return. -/
def strayThenHelp : List UInt8 := [35, 10, 104, 101, 108, 112, 13, 10]

/-- A number, leaving with a carriage return, and another number. -/
def numberThenExit : List UInt8 := [49, 10, 101, 120, 105, 116, 13, 10, 50]

theorem prompts_compose_strayThenHelp_numberThenExit :
    Text.Closed 10 strayThenHelp ∧
      (∀ line ∈ Text.splitAfter 10 strayThenHelp, PromptCommand.ofBytes line ≠ .leave) ∧
      (let one := Outlet.unlimited.perform ((start false).prompt ⟨strayThenHelp, none⟩)
        let reached := (start false).after one
        let other := Outlet.unlimited.perform (reached.prompt ⟨[34], some "unplugged"⟩)
        let whole := Outlet.unlimited.perform
          ((start false).prompt ⟨strayThenHelp ++ [34], some "unplugged"⟩)
        (∃ written, one.accepted = written ++ Text.Utf8.encode promptMark.toList ∧
          whole.accepted = written ++ other.accepted) ∧
        one.result = .ok () ∧ whole.result = other.result ∧
        (start false).after whole = reached.after other) ∧
      (∃ line ∈ Text.splitAfter 10 numberThenExit,
        line.getLast? = some 10 ∧ PromptCommand.ofBytes line = .leave) ∧
      Outlet.unlimited.perform ((start false).prompt ⟨numberThenExit ++ [34], some "unplugged"⟩) =
        Outlet.unlimited.perform ((start false).prompt ⟨numberThenExit, none⟩) := by
  have closed : Text.Closed 10 strayThenHelp := .inr rfl
  have stay : ∀ line ∈ Text.splitAfter 10 strayThenHelp, PromptCommand.ofBytes line ≠ .leave := by
    decide +kernel
  have leaves : ∃ line ∈ Text.splitAfter 10 numberThenExit,
      line.getLast? = some 10 ∧ PromptCommand.ofBytes line = .leave := by
    decide +kernel
  exact ⟨closed, stay,
    (prompts_compose (start false) strayThenHelp [34] (some "unplugged")).1 closed stay, leaves,
    (prompts_compose (start false) numberThenExit [34] (some "unplugged")).2 leaves none .unlimited⟩

end Session

end LoxLexer
