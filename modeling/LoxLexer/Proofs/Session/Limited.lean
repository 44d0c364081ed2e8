/-
# Outlets with limited room

Scanning a file, answering the prompt and showing a diagnostic stop at their first refused
text. So what is done at an outlet with limited room is what is done at the unlimited one, cut
at the room. If the texts fit, even exactly, nothing is cut. A file leaves its diagnostics
behind before the first byte, so they do not depend on the room.
-/

import LoxLexer.Proofs.Session.Bytes

namespace LoxLexer

/-- The limited performance is the whole one up to the last byte there was room
for, and it fails exactly if there is another byte. -/
structure Performance.IsCutAt {α : Type} (limited whole : Performance (Except Stop α)) (room : Nat)
    (reason : String) : Prop where
  accepted : limited.accepted = whole.accepted.take room
  refused : room < whole.accepted.length → limited.result = .error (.unwritable reason)
  fits : whole.accepted.length ≤ room → limited.result = whole.result

/-- What stops at its first refused text is cut where the room of an outlet ends. -/
theorem Procedure.StopsWhenRefused.isCutAt {α : Type} {procedure : Procedure α}
    (stops : procedure.StopsWhenRefused) (room : Nat) (reason : String) :
    (Outlet.perform ⟨some room, reason⟩ procedure).IsCutAt (Outlet.unlimited.perform procedure)
      room reason := by
  obtain ⟨actions, result, rfl⟩ := stops
  rw [Outlet.perform_unlimited]
  have ends := Outlet.result_perform_ofActions result actions ⟨some room, reason⟩
  constructor
  case accepted => exact Outlet.accepted_perform_ofActions result actions ⟨some room, reason⟩
  case refused =>
      intro refused
      exact ends.trans (if_pos (decide_eq_true refused))
  case fits =>
      intro fits
      have room : ¬ room < (actions.flatMap Action.bytes).length := Nat.not_lt_of_le fits
      exact ends.trans (if_neg (mt of_decide_eq_true room))

/-- What goes on behind a refused text as if it had been taken is not cut: it ends well. -/
example : (Outlet.perform ⟨some 1, "full"⟩ do
    let _ ← (Procedure.write "ab").run
    (Procedure.log .promptClosed).run).result = .ok () := rfl

namespace Session

/-- A diagnostic, a file and a prompt give an outlet with limited room exactly the
bytes from the front that it has room for, and fail with its reason if there are
more. A file leaves its own diagnostics behind all the same. -/
theorem limited_room_cuts (room : Nat) (reason : String) :
    (∀ (diagnostic : Diagnostic) (source : String),
      let limited := Outlet.perform ⟨some room, reason⟩ (diagnostic.render source.toList)
      let whole := Outlet.unlimited.perform (diagnostic.render source.toList)
      limited.IsCutAt whole room reason ∧
        whole.accepted = lineBytes (diagnostic.shownLines source.toList)) ∧
    (∀ (session : Session) (path source : String),
      let scan := Scan.ofText source (fileName? path)
      let limited := Outlet.perform ⟨some room, reason⟩ (session.scanFile path (.ok source))
      let whole := Outlet.unlimited.perform (session.scanFile path (.ok source))
      limited.IsCutAt whole room reason ∧
        whole.accepted =
          (if session.showsTokens then tokenBytes scan.tokens else []) ++
            diagnosticBytes scan.diagnostics source ∧
        (session.after limited).diagnostics = ⟨scan.diagnostics⟩ ∧
        (session.after whole).diagnostics = ⟨scan.diagnostics⟩) ∧
    (∀ (session : Session) (input : PromptInput),
      let limited := Outlet.perform ⟨some room, reason⟩ (session.prompt input)
      let whole := Outlet.unlimited.perform (session.prompt input)
      limited.IsCutAt whole room reason ∧ whole.accepted = promptBytes input.lines) ∧
    (Stop.unwritable reason).diagnostic? = some ⟨.transfer reason, ⟨0, "<null>"⟩, 0⟩ := by
  refine ⟨?_, ?_, ?_, rfl⟩
  · intro diagnostic source
    have stops := diagnostic.stopsWhenRefused_render source.toList
    exact ⟨stops.isCutAt room reason, diagnostic.accepted_render source.toList⟩
  · intro session path source
    have stops := session.stopsWhenRefused_scanFile path (.ok source)
    refine ⟨stops.isCutAt room reason, session.accepted_scanFile path source, ?_, ?_⟩
    · rw [after_scanFile]
      rfl
    · rw [after_scanFile]
      rfl
  · intro session input
    have stops := session.stopsWhenRefused_prompt input
    exact ⟨stops.isCutAt room reason, session.accepted_prompt input⟩

end Session

end LoxLexer
