import HdlLex.Proofs.FrontGrammar
import HdlLex.Proofs.Run

/-!
# Longest match — every token against the grammar

A token is not only a lexeme of its kind: nothing longer that stands at the
same place is a lexeme of any kind. Where no lexeme stands at all, a single
character is passed through. This holds of every call, however many calls came
before and whatever came of them.

* `Lexeme.IsLongest`, `Lexeme.BeginsNone` — what may stand at the front of a
  text.

Main results:

* `Lexeme.front_longest` — what is read at the front is the longest lexeme.
* `result_longest` — so is every token of a run.
-/

namespace HdlLex

namespace Lexeme

-- ---------------------------------------------------------------------------
-- The front of a text
-- ---------------------------------------------------------------------------

/-- A lexeme of this kind at the front of a text, than which no lexeme of any kind is longer. -/
structure IsLongest (unicode : Bool) (kind : TokenKind) (written text : List Char) : Prop where
  isPrefix : written <+: text
  inLanguage : InLanguage unicode kind written
  length_le : ∀ other cs, InLanguage unicode other cs → cs <+: text → cs.length ≤ written.length

/-- No lexeme of any kind stands at the front of the text. -/
def BeginsNone (unicode : Bool) (text : List Char) : Prop :=
  ∀ kind cs, InLanguage unicode kind cs → ¬ cs <+: text

/-- What is read at the front is the longest lexeme there, or a character that begins none. -/
theorem front_longest {config : Config} {text : List Char} {lexeme : Lexeme}
    (h : front config text = .ok lexeme) (hMore : lexeme.kind ≠ .eof) :
    IsLongest config.unicodeWords lexeme.kind lexeme.written text ∨
      (lexeme.kind = .unknown ∧ config.unknownChars = .passThrough ∧
        (∃ c, lexeme.written = [c]) ∧ BeginsNone config.unicodeWords text) := by
  cases text with
  | nil => exact absurd ((front_kind_eof_iff h).2 rfl) hMore
  | cons c cs =>
    rcases front_valid h with hValid | ⟨rfl, hPolicy, hNone⟩
    · refine Or.inl ⟨front_isPrefix h, ⟨lexeme.meaning, hValid⟩, ?_⟩
      rintro kind other ⟨meaning, hOther⟩ hFront
      exact length_le_front h hOther hFront
    · refine Or.inr ⟨rfl, hPolicy, ⟨c, rfl⟩, ?_⟩
      rintro kind other ⟨meaning, hOther⟩
      exact hNone _ hOther

end Lexeme

-- ---------------------------------------------------------------------------
-- Runs
-- ---------------------------------------------------------------------------

/--
Every token of a run but the end is the longest lexeme at its place. Where no
lexeme stands there, it is a single character of unknown meaning, and unknown
characters are to be passed through.
-/
theorem result_longest {config : Config} {source : String} {n : Nat} {token : Token}
    (h : (Lexer.ofText config source).result n = .ok token) (hMore : token.kind ≠ .eof) :
    ∃ text, Text.dropBytes? source.toList token.span.start = some text ∧
      (token.kind ≠ .unknown → Lexeme.IsLongest config.unicodeWords token.kind
        (token.lexeme source).toList text) ∧
      (token.kind = .unknown → config.unknownChars = .passThrough ∧
        (∃ c, (token.lexeme source).toList = [c] ∧ [c] <+: text) ∧
        Lexeme.BeginsNone config.unicodeWords text) := by
  obtain ⟨passed, hStands⟩ := Lexer.exists_stands_calls config source n
  obtain ⟨gap, lexeme, ahead, hRead, hRest, rfl, -⟩ := hStands.token h
  have hCovers := hStands.covers hRest
  rw [hRest] at hRead
  obtain ⟨-, hFront⟩ := Lexer.gap_front_of_read hRead
  refine ⟨lexeme.written ++ ahead, hCovers.dropBytes?, ?_⟩
  rw [hCovers.lexeme]
  have hKind : (Lexer.tokenBehind (config.startPosition source.toList) (passed ++ gap)
      lexeme).kind = lexeme.kind := rfl
  rw [hKind] at hMore ⊢
  rcases Lexeme.front_longest hFront hMore with hLongest | ⟨hUnknown, hPolicy, ⟨c, hChar⟩, hNone⟩
  · refine ⟨fun _ => hLongest, fun hUnknown => ?_⟩
    obtain ⟨meaning, hValid⟩ := hLongest.inLanguage
    exact absurd hUnknown hValid.kind_ne.1
  · refine ⟨fun hKnown => absurd hUnknown hKnown, fun _ => ⟨hPolicy, ⟨c, hChar, ?_⟩, hNone⟩⟩
    rw [hChar]
    exact ⟨ahead, rfl⟩

/--
Behind a faulty literal, a number that an exponent without digits does not
belong to, and a word that begins beyond ASCII.
-/
theorem longest_behind_error :
    ((Lexer.ofText {} "'ab' 1.5e+x").result 1 = .ok ⟨.float, "1.5", ⟨5, 8, 1, 6⟩⟩ ∧
      Lexeme.IsLongest false .float ['1', '.', '5'] ['1', '.', '5', 'e', '+', 'x']) ∧
    (Lexer.ofText { unicodeWords := true } "'ab' été2+").result 1 =
        .ok ⟨.identifier, "été2", ⟨5, 11, 1, 6⟩⟩ ∧
      Lexeme.IsLongest true .identifier ['é', 't', 'é', '2'] ['é', 't', 'é', '2', '+'] := by
  refine ⟨?_, ?_⟩
  · have hToken : (Lexer.ofText {} "'ab' 1.5e+x").result 1 =
        .ok ⟨.float, "1.5", ⟨5, 8, 1, 6⟩⟩ := by
      decide +kernel
    obtain ⟨text, hText, hKnown, -⟩ := result_longest hToken (by decide)
    have hAhead : Text.dropBytes? "'ab' 1.5e+x".toList 5 =
        some ['1', '.', '5', 'e', '+', 'x'] := by
      decide +kernel
    obtain rfl := Option.some.inj (hText.symm.trans hAhead)
    exact ⟨hToken, hKnown (by decide)⟩
  · have hToken : (Lexer.ofText { unicodeWords := true } "'ab' été2+").result 1 =
        .ok ⟨.identifier, "été2", ⟨5, 11, 1, 6⟩⟩ := by
      decide +kernel
    obtain ⟨text, hText, hKnown, -⟩ := result_longest hToken (by decide)
    have hAhead : Text.dropBytes? "'ab' été2+".toList 5 = some ['é', 't', 'é', '2', '+'] := by
      decide +kernel
    obtain rfl := Option.some.inj (hText.symm.trans hAhead)
    have hLexeme : ((⟨.identifier, "été2", ⟨5, 11, 1, 6⟩⟩ : Token).lexeme
        "'ab' été2+").toList = ['é', 't', 'é', '2'] := by
      decide +kernel
    have hLongest := hKnown (by decide)
    rw [hLexeme] at hLongest
    exact ⟨hToken, hLongest⟩

end HdlLex
