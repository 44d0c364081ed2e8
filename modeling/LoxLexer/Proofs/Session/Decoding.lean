/-
# A prompt decodes line by line

The prompt divides its input into lines of bytes and decodes each of them by itself. It could as
well decode the whole input first: of a text that replaces what is malformed it would make the
same lines, give the same answers and leave the same diagnostics, also if the input breaks off.
-/

import LoxLexer.Proofs.Session.Completion
import LoxLexer.Proofs.Text.Lossy

namespace LoxLexer

open Text.Utf8

namespace PromptInput

/-- The input with the bytes of the text to which its own bytes are decoded. -/
def decoded (input : PromptInput) : PromptInput := ⟨encode (decodeLossy input.bytes), input.fault⟩

/-- The lines as texts are lines of the whole text. If the input breaks off, the last of
them is lost before and after decoding alike, unless it is closed. -/
theorem map_decodeLossy_lines (input : PromptInput) :
    input.lines.map decodeLossy =
      let texts := Text.lines (decodeLossy input.bytes)
      if input.fault.isSome then texts.filter fun text => text.getLast? = some '\n' else texts := by
  simp only [lines, lines_decodeLossy]
  split
  · rw [List.filter_map]
    congr 2
    funext piece
    exact decide_eq_decide.mpr getLast?_decodeLossy.symm
  · rfl

theorem map_decodeLossy_lines_decoded (input : PromptInput) :
    input.decoded.lines.map decodeLossy = input.lines.map decodeLossy := by
  rw [map_decodeLossy_lines, map_decodeLossy_lines, decoded, decodeLossy_encode]

/-- What a line asks for depends on nothing but its text. -/
theorem map_ofBytes_lines_decoded (input : PromptInput) :
    input.decoded.lines.map PromptCommand.ofBytes = input.lines.map PromptCommand.ofBytes := by
  have textual : PromptCommand.ofBytes = (fun text => PromptCommand.ofText (String.ofList
      (PromptCommand.dropEnding '\r' (PromptCommand.dropEnding '\n' text)))) ∘ decodeLossy := rfl
  rw [textual, ← List.map_map, ← List.map_map, map_decodeLossy_lines_decoded]

end PromptInput

namespace Session

/-- The prompt looks at nothing but what its lines ask for. -/
theorem answerLines_congr {first second : List (List UInt8)}
    (same : first.map PromptCommand.ofBytes = second.map PromptCommand.ofBytes)
    (fault : Option String) (session : Session) :
    answerLines fault session first = answerLines fault session second := by
  have turns (lines : List (List UInt8)) : (answered lines).flatMap turnActions =
      ((lines.map PromptCommand.ofBytes).takeWhile fun command => command ≠ .leave).flatMap
        fun command => .write promptMark :: commandActions command := by
    rw [List.takeWhile_map, List.flatMap_map]
    rfl
  have reached (lines : List (List UInt8)) : faultReached fault lines =
      if (lines.map PromptCommand.ofBytes).any fun command => command = .leave then none
      else fault := by
    rw [List.any_map]
    rfl
  rw [answerLines_eq, answerLines_eq, turns, turns, reached, reached, same]

theorem prompt_decoded (session : Session) (input : PromptInput) :
    session.prompt input.decoded = session.prompt input :=
  answerLines_congr input.map_ofBytes_lines_decoded input.fault session

/-- Whether bytes are divided into lines and then decoded or the other way round, the prompt
reads the same lines. So at every outlet it writes the same, ends in the same way and leaves
the same diagnostics. -/
theorem decoding_commutes_with_dividing (session : Session) (input : PromptInput) :
    input.decoded.lines.map decodeLossy = input.lines.map decodeLossy ∧
    ∀ outlet : Outlet,
      let own := outlet.perform (session.prompt input)
      let whole := outlet.perform (session.prompt input.decoded)
      whole.accepted = own.accepted ∧ whole.result = own.result ∧ whole.events = own.events ∧
        (session.after whole).diagnostics = (session.after own).diagnostics := by
  refine ⟨input.map_decodeLossy_lines_decoded, ?_⟩
  intro outlet own whole
  have same : whole = own := congrArg outlet.perform (session.prompt_decoded input)
  rw [same]
  exact ⟨rfl, rfl, rfl, rfl⟩

end Session

end LoxLexer
