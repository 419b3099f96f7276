import Z16.Proofs.Console.Draining
import Z16.Proofs.Console.Session

/-!
# Output in pieces

The output of a console may be taken at any time during a session. What is taken, piece after piece, and what is left
at the end is the output of the same session without taking, and nothing else of the session depends on it
(`Console.Session.output_in_pieces`). For a text in front of the output stays there, whatever happens
(`Console.Session.act_prepend`), so what is taken can be put back.
-/

namespace Z16.Console.Session

def prepend (text : String) (s : Session) : Session := { s with console := s.console.prepend text }

def Act.takes : Act → Bool
  | .takeOutput => true
  | _ => false

def pieces (s : Session) : List Act → List String
  | [] => []
  | a :: acts =>
    let (text, next) := s.act a
    if a.takes then text :: next.pieces acts else next.pieces acts

theorem act_prepend (text : String) (s : Session) {a : Act} (leaves : a.takes = false) :
    ((s.prepend text).act a).2 = (s.act a).2.prepend text := by
  cases a with
  | pushLine | pushKeys | change => rfl
  | takeOutput => exact nomatch leaves
  | call service =>
    have served := Service.perform_map (prependMap text) service s.context s.console
    simp only [act]
    exact congrArg (fun after => Session.mk after.1 after.2) served

theorem prepend_taken (text : String) (s : Session) :
    (s.act .takeOutput).2.prepend (text ++ (s.act .takeOutput).1) = s.prepend text := by
  simp [act, takeOutput, prepend, Console.prepend]

theorem after_prepend (text : String) (s : Session) (acts : List Act) :
    (s.prepend text).after (acts.filter fun a => !a.takes) =
      (s.after acts).prepend (text ++ String.join (s.pieces acts)) := by
  induction acts generalizing s text with
  | nil => rw [pieces, String.join_nil, String.append_empty]; rfl
  | cons a acts ih =>
    show _ = ((s.act a).2.after acts).prepend _
    cases takes : a.takes with
    | false =>
      rw [List.filter_cons_of_pos (by simp [takes]), pieces]
      show ((s.prepend text).act a).2.after _ = _
      rw [act_prepend text s takes, ih]
      simp [takes]
    | true =>
      obtain rfl : a = .takeOutput := by
        cases a with
        | takeOutput => rfl
        | pushLine | pushKeys | call | change => exact nomatch takes
      rw [List.filter_cons_of_neg (by simp [takes]), pieces, ← prepend_taken, ih]
      simp [takes, String.append_assoc]

/-- However the output is taken during a session, the pieces in order and what is left are the output of the
session without taking. Registers, memory and what is queued as input are the same. -/
theorem output_in_pieces (s : Session) (acts : List Act) :
    let last := s.after acts
    let whole := s.after (acts.filter fun a => !a.takes)
    String.join (s.pieces acts) ++ last.console.output = whole.console.output ∧
      last.context.registers = whole.context.registers ∧ last.context.memory = whole.context.memory ∧
      last.console.lines = whole.console.lines ∧ last.console.keys = whole.console.keys := by
  intro last whole
  have unchanged : s.prepend "" = s := by simp [prepend, Console.prepend]
  have same : whole = last.prepend (String.join (s.pieces acts)) := by
    have after := after_prepend "" s acts
    rwa [unchanged, String.empty_append] at after
  rw [same]
  exact ⟨rfl, rfl, rfl, rfl, rfl⟩

end Z16.Console.Session
