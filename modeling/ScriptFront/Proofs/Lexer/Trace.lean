import ScriptFront.Proofs.Lexer.Scan
import ScriptFront.Proofs.Token.Display

/-!
# Traces

The trace of an operation is what it reports at the level `trace`: one message for each token, and
none on faults. As no two tokens are displayed alike, reading a text to its end leaves the trace of
its tokens and of no others (`Lexer.trace_tokenize_iff`).
-/

namespace ScriptFront

/-- The messages that an operation reports at the level `trace`. -/
def Outcome.trace {α : Type} (o : Outcome α) : List String :=
  (o.events.filter fun e => e.level == .trace).map Event.message

theorem Munch.level_faults {read rest : List Char} {r : Reading} (h : Munch read rest r) :
    ∀ e ∈ r.faults, e.level = .debug := by
  cases h with
  | @lexeme t _ _ _ =>
    intro e he
    unfold Reading.ofLexeme at he
    split_ifs at he
    · obtain ⟨c, -, rfl⟩ := List.mem_map.1 he
      rfl
    · cases he
  | openString _ => simp [Reading.openString, Event.level]

/-- Of the events of a token only the token is traced. -/
theorem Munch.filter_events {read rest : List Char} {r : Reading} (h : Munch read rest r) :
    r.events.filter (fun e => e.level == .trace) = [.scanned r.token] := by
  have hfaults : r.faults.filter (fun e => e.level == .trace) = [] := by
    rw [List.filter_eq_nil_iff]
    intro e he
    rw [h.level_faults e he]
    decide
  rw [Reading.events, List.filter_append, hfaults]
  rfl

theorem Scan.filter_events {cs : List Char} {rs : List Reading} (h : Scan cs rs) :
    (rs.flatMap (·.events)).filter (fun e => e.level == .trace) =
      rs.map fun r => .scanned r.token := by
  induction h with
  | blank _ => rfl
  | token _ hm _ ih =>
    rw [List.flatMap_cons, List.filter_append, hm.filter_events, ih, List.map_cons,
      List.singleton_append]

namespace Lexer

theorem trace_tokenize (source : String) :
    (ofString source).tokenize.trace =
      (ofString source).tokenize.value.map fun t => "scanned " ++ t.display := by
  obtain ⟨rs, hs⟩ := exists_scan source.toList
  obtain ⟨next, -, hn⟩ := (yields_ofString hs).tokenize
  rw [hn, Outcome.trace, List.filter_append, hs.filter_events]
  simp only [List.map_append, List.map_map]
  rfl

/-- Tokens that are displayed alike are equal. To read a text to its end leaves one message for each
token, and so the tokens of two texts are equal if the traces that they leave are alike. -/
theorem trace_tokenize_iff :
    (∀ t u : Token, t.display = u.display ↔ t = u) ∧
      (∀ source, (ofString source).tokenize.trace =
        (ofString source).tokenize.value.map fun t => "scanned " ++ t.display) ∧
      ∀ source source',
        (ofString source).tokenize.trace = (ofString source').tokenize.trace ↔
          (ofString source).tokenize.value = (ofString source').tokenize.value := by
  refine ⟨fun _ _ => Token.display_inj, trace_tokenize, fun source source' => ?_⟩
  rw [trace_tokenize, trace_tokenize]
  apply List.map_inj_right
  intro t u h
  exact Token.display_inj.1 ((String.append_right_inj _).1 h)

end Lexer

end ScriptFront
