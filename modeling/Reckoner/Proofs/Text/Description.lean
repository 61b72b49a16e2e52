import Reckoner.Proofs.Numeral.Decimal
import Reckoner.Proofs.Scan.Lexeme
import Reckoner.Proofs.Text.Quoted
import Reckoner.Diagnostic
import Reckoner.Token

/-!
# Descriptions tell what they describe

The description of a token gives its kind, its text and its position back, though the text may imitate the rest of a description;
and the text of a diagnostic about an unexpected piece gives the piece and its position (`describe_tells_apart`). Both are printable
throughout, so they stay on one line.
-/

namespace Reckoner

/-! ## Texts on one line -/

/-- A text is printable throughout, so no line ends in it. -/
def OnOneLine (s : String) : Prop := ∀ c ∈ s.toList, isPrintable c = true ∧ lineBreaks.has c = false

section

variable {s s' : String}

/-- A text is on one line if all its characters are printable. -/
theorem onOneLine_iff : OnOneLine s ↔ ∀ c ∈ s.toList, isPrintable c = true :=
  ⟨fun h c hc => (h c hc).1, fun h c hc => ⟨h c hc, lineBreaks_has_eq_false (h c hc)⟩⟩

theorem OnOneLine.append (h : OnOneLine s) (h' : OnOneLine s') : OnOneLine (s ++ s') := by
  intro c hc
  rw [String.toList_append, List.mem_append] at hc
  exact hc.elim (h c) (h' c)

/-- A text on one line holds no line feed. -/
theorem OnOneLine.newline_not_mem (h : OnOneLine s) : '\n' ∉ s.toList :=
  fun hc => absurd (h '\n' hc).2 (by decide)

/-- A text of visible ASCII characters and blanks is on one line. -/
theorem onOneLine_of_ascii (h : s.toList.all (fun c => decide (0x20 ≤ c.toNat) && decide (c.toNat ≤ 0x7E)) = true) :
    OnOneLine s := by
  refine onOneLine_iff.2 fun c hc => ?_
  have hascii := List.all_eq_true.1 h c hc
  rw [Bool.and_eq_true, decide_eq_true_eq, decide_eq_true_eq] at hascii
  exact isPrintable_of_ascii hascii.1 hascii.2

/-- Quoting puts any text on one line. -/
theorem onOneLine_quoted (s : String) : OnOneLine (quoted s) := onOneLine_iff.2 (isPrintable_of_mem_quoted s)

/-- An integer is written on one line. -/
theorem onOneLine_repr (n : Int) : OnOneLine n.repr := by
  refine onOneLine_iff.2 fun c hc => ?_
  rw [toList_repr, List.mem_append] at hc
  rcases hc with hsign | hdigit
  · split_ifs at hsign
    · rw [List.mem_singleton.1 hsign]
      exact isPrintable_of_ascii (by decide) (by decide)
    · cases hsign
  · obtain ⟨hlo, hhi⟩ := Char.isDigit_iff_toNat.1 (isDigit_of_mem_toDigits _ c hdigit)
    exact isPrintable_of_ascii (Nat.le_trans (by decide) hlo) (Nat.le_trans hhi (by decide))

theorem onOneLine_name (k : Token.Kind) : OnOneLine k.name := by
  cases k <;> exact onOneLine_of_ascii (by decide)

end

/-! ## Tokens and diagnostics -/

/-- The description of a token, part by part. -/
theorem Token.describe_eq (t : Token) :
    t.describe = "Token(" ++ (t.kind.name ++ (", " ++ (quoted t.text ++ (", pos=" ++ (t.position.repr ++ ")"))))) := by
  rw [describe, String.append_assoc, String.append_assoc, String.append_assoc, String.append_assoc, String.append_assoc]

/-- The text of an unexpected character, part by part. -/
theorem text_unexpectedCharacter (piece : String) (p : Int) : (Diagnostic.unexpectedCharacter piece p).text =
    "Unexpected character: " ++ (quoted piece ++ (" at position: " ++ p.repr)) := by
  rw [← String.append_assoc, ← String.append_assoc]
  rfl

/-- A token is described on one line. -/
theorem onOneLine_describe (t : Token) : OnOneLine t.describe := by
  rw [t.describe_eq]
  refine (onOneLine_of_ascii (by decide)).append ((onOneLine_name t.kind).append ?_)
  refine (onOneLine_of_ascii (by decide)).append ((onOneLine_quoted t.text).append ?_)
  exact (onOneLine_of_ascii (by decide)).append ((onOneLine_repr t.position).append (onOneLine_of_ascii (by decide)))

/-- An unexpected piece is reported on one line. -/
theorem onOneLine_unexpectedCharacter (piece : String) (p : Int) :
    OnOneLine (Diagnostic.unexpectedCharacter piece p).text := by
  rw [text_unexpectedCharacter]
  refine (onOneLine_of_ascii (by decide)).append ((onOneLine_quoted piece).append ?_)
  exact (onOneLine_of_ascii (by decide)).append (onOneLine_repr p)

/-- The name of a kind is told from what follows it, as it holds no comma. -/
theorem Token.Kind.name_append_inj {k l : Kind} {rest rest' : String}
    (h : k.name ++ (", " ++ rest) = l.name ++ (", " ++ rest')) : k = l ∧ rest = rest' := by
  have hname : ∀ k : Kind, ∀ c ∈ k.name.toList, (c != ',') = true := by
    intro k
    exact List.all_eq_true.1 (by cases k <;> decide)
  have hlist : k.name.toList ++ ',' :: ' ' :: rest.toList = l.name.toList ++ ',' :: ' ' :: rest'.toList := by
    simpa [String.toList_append] using congrArg String.toList h
  obtain ⟨hkind, hrest⟩ := run_unique (hname k) (hname l) (by simp) (by simp) hlist
  exact ⟨name_injective (String.toList_inj.1 hkind), String.toList_inj.1 (List.cons.inj (List.cons.inj hrest).2).2⟩

/-- What a token is described as tells the token. -/
theorem Token.eq_of_describe_eq {t u : Token} (h : t.describe = u.describe) : t = u := by
  obtain ⟨k, text, p⟩ := t
  obtain ⟨l, text', p'⟩ := u
  rw [describe_eq, describe_eq] at h
  obtain ⟨rfl, hrest⟩ := Kind.name_append_inj ((String.append_right_inj "Token(").1 h)
  obtain ⟨rfl, hrest⟩ := quoted_append_inj hrest
  have hrepr : p.repr = p'.repr := (String.append_left_inj ")").1 ((String.append_right_inj ", pos=").1 hrest)
  rw [Int.repr_inj.1 hrepr]

/-- What is said of an unexpected piece tells the piece and its position. -/
theorem eq_of_unexpectedCharacter_eq {piece piece' : String} {p p' : Int}
    (h : (Diagnostic.unexpectedCharacter piece p).text = (Diagnostic.unexpectedCharacter piece' p').text) :
    piece = piece' ∧ p = p' := by
  rw [text_unexpectedCharacter, text_unexpectedCharacter] at h
  obtain ⟨hpiece, hrest⟩ := quoted_append_inj ((String.append_right_inj "Unexpected character: ").1 h)
  exact ⟨hpiece, Int.repr_inj.1 ((String.append_right_inj " at position: ").1 hrest)⟩

/-- Two tokens are described alike exactly if they are the same, and of two unexpected pieces the same is said exactly if they are
the same and at the same position, whatever the kinds, texts and positions. All of this is said in printable characters on one
line. -/
theorem describe_tells_apart (t u : Token) (piece piece' : String) (p p' : Int) :
    (t.describe = u.describe ↔ t.kind = u.kind ∧ t.text = u.text ∧ t.position = u.position) ∧
      ((Diagnostic.unexpectedCharacter piece p).text = (Diagnostic.unexpectedCharacter piece' p').text ↔
        piece = piece' ∧ p = p') ∧
      OnOneLine t.describe ∧ OnOneLine (Diagnostic.unexpectedCharacter piece p).text := by
  refine ⟨⟨fun h => ?_, fun h => ?_⟩, ⟨eq_of_unexpectedCharacter_eq, fun h => ?_⟩, onOneLine_describe t,
    onOneLine_unexpectedCharacter piece p⟩
  · rw [Token.eq_of_describe_eq h]
    exact ⟨rfl, rfl, rfl⟩
  · rw [Token.describe, h.1, h.2.1, h.2.2, Token.describe]
  · rw [h.1, h.2]

end Reckoner
