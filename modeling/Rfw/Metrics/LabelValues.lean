/-
# Label values as a scraper reads them

`escape` serves the JSON and the Prometheus output.  The text exposition format knows three escape
sequences only, so a label with a carriage return, a tab or another control character comes out as
something that a scraper cannot decode.  All other labels come back as they were.
-/
import Rfw.Lib.Exposition
import Rfw.Metrics.Escape

namespace Rfw.Metrics

open Lib Lib.Exposition

/-- A character that the text exposition format can carry through `escape`: the line feed is the
only control character among them. -/
def Carried (c : Char) : Prop := isControl c = true → c = '\n'

/-- A character without a special meaning stands for itself. -/
lemma readValue_cons {c : Char} (hquote : c ≠ '"') (hslash : c ≠ '\\') (s : Str) :
    readValue (c :: s) = (readValue s).map fun p => (c :: p.1, p.2) := by
  rw [readValue]
  · exact hquote
  · exact fun _ heq _ => hslash heq
  · exact fun _ heq _ => hslash heq
  · exact fun _ heq _ => hslash heq
  · exact hslash

/-- Any other letter after a backslash is invalid. -/
lemma readValue_invalid {e : Char} (h : e = 'r' ∨ e = 't' ∨ e = 'u') (s : Str) :
    readValue ('\\' :: e :: s) = none := by
  rcases h with rfl | rfl | rfl <;> rfl

/-- A character is read back, or the whole value is rejected there. -/
lemma readValue_escapeChar (c : Char) (s : Str) :
    (Carried c ∧ readValue (escapeChar c ++ s) = (readValue s).map fun p => (c :: p.1, p.2)) ∨
      (¬ Carried c ∧ readValue (escapeChar c ++ s) = none) := by
  by_cases hslash : c = '\\'
  · subst hslash
    exact .inl ⟨fun h => absurd h (by decide), rfl⟩
  by_cases hquote : c = '"'
  · subst hquote
    exact .inl ⟨fun h => absurd h (by decide), rfl⟩
  by_cases hn : c = '\n'
  · subst hn
    exact .inl ⟨fun _ => rfl, rfl⟩
  -- what is left is a control character that is escaped, or a character that is not
  cases escapeCase c with
  | letter e he h =>
    have hletter : isControl c = true ∧ (e = 'r' ∨ e = 't') := by
      unfold escapeLetter at he
      split at he
      · exact absurd rfl hslash
      · exact absurd rfl hquote
      · exact absurd rfl hn
      · exact ⟨by decide, .inl (Option.some.inj he).symm⟩
      · exact ⟨by decide, .inr (Option.some.inj he).symm⟩
      · cases he
    refine .inr ⟨fun hcarried => hn (hcarried hletter.1), ?_⟩
    rw [h]
    exact readValue_invalid (by tauto) s
  | number hc h =>
    refine .inr ⟨fun hcarried => hn (hcarried hc), ?_⟩
    rw [h]
    exact readValue_invalid (by simp) _
  | itself _ _ hc h =>
    refine .inl ⟨fun hcontrol => absurd hcontrol (by simp [hc]), ?_⟩
    rw [h]
    exact readValue_cons hquote hslash s

/-- **A label survives the Prometheus format exactly when the line feed is its only control
character.**  The value is read up to the quote that closes it. -/
theorem readValue_escape_iff (label rest : Str) :
    readValue (escape label ++ '"' :: rest) = some (label, rest) ↔
      ∀ c ∈ label, isControl c = true → c = '\n' := by
  induction label with
  | nil => exact iff_of_true rfl (by simp)
  | cons c label ih =>
    rw [escape_cons, List.append_assoc, List.forall_mem_cons]
    obtain ⟨hc, hread⟩ | ⟨hc, hread⟩ := readValue_escapeChar c (escape label ++ '"' :: rest)
    · rw [hread, ← ih]
      constructor
      · intro h
        obtain ⟨⟨value, left⟩, hp, heq⟩ := Option.map_eq_some_iff.mp h
        obtain ⟨hvalue, rfl⟩ := Prod.mk.inj heq
        obtain ⟨-, rfl⟩ := List.cons.inj hvalue
        exact ⟨hc, hp⟩
      · rintro ⟨-, h⟩
        rw [h]
        rfl
    · rw [hread]
      exact iff_of_false (by simp) fun h => hc h.1

/-- The label of a forwarder whose configured host holds a tab. -/
def tabLabel : Str :=
  ForwarderConfig.label
    { localHost := "a\tb".toList, localPort := 80, remoteHost := ['c'], remotePort := 80,
      protocol := .tcp }

/-- The value of this label cannot be read. -/
theorem readValue_rejects_tab :
    ¬ ∀ label rest : Str, readValue (escape label ++ '"' :: rest) = some (label, rest) := by
  intro hall
  have hread := hall tabLabel []
  have hnone : readValue (escape tabLabel ++ ['"']) = none := by decide
  rw [hnone] at hread
  cases hread

end Rfw.Metrics
