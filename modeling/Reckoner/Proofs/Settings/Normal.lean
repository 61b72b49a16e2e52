import Reckoner.Proofs.Settings.Range

/-!
# Settings in normal form

Settings that were read once are written as a record of their three fields, with the number of bits as an integer or nothing and
the level by its name in upper case. That record is read as the same settings (`Settings.ofPlain_toPlain`), so reading does not
change what it has given (`Settings.ofPlain_normal`). Nor does it see how a level is written beyond its upper case
(`Settings.ReadFrom.of_sameUpToCase`).
-/

namespace Reckoner.Settings

variable {p : Plain} {fields fields' : List (String × Plain)} {s : Settings}

/-- Two records hold the same fields, but for the level, which both name, in texts of one upper case. -/
structure SameUpToCase (fields fields' : List (String × Plain)) : Prop where
  others : ∀ name, name ≠ "log_level" → Plain.field? name fields = Plain.field? name fields'
  levels : ∃ a b, Plain.field? "log_level" fields = some (.text a) ∧ Plain.field? "log_level" fields' = some (.text b) ∧
    upper a.toList = upper b.toList

/-- What a record says does not depend on the case that it names its level in. -/
theorem ReadFrom.of_sameUpToCase (h : s.ReadFrom fields) (hsame : SameUpToCase fields fields') : s.ReadFrom fields' := by
  obtain ⟨a, b, ha, hb, hcase⟩ := hsame.levels
  have hlevel : upper a.toList = s.level.name.toList := by
    rcases h.level with ⟨habsent, -⟩ | ⟨name, hname, hupper⟩
    · cases habsent.symm.trans ha
    · obtain rfl := Plain.text.inj (Option.some.inj (hname.symm.trans ha))
      exact hupper
  refine ⟨?_, ?_, .inr ⟨b, hb, hcase ▸ hlevel⟩, ?_⟩
  · rw [← hsame.others "prompt" (by decide)]
    exact h.prompt
  · rw [← hsame.others "int_bits" (by decide)]
    exact h.literalBits
  · intro name hname
    rw [← hsame.others name (fun hlevel => hname (hlevel ▸ by decide))]
    exact h.names name hname

/-- Settings in range are read from the record that they are written as. -/
theorem ofPlain_toPlain (h : s.InRange) : ofPlain s.toPlain = .ok s := by
  obtain ⟨prompt, bits, level⟩ := s
  refine ofPlain_eq_ok_iff.2 ⟨_, rfl, ?_⟩
  constructor
  case prompt => exact .inr rfl
  case literalBits =>
    cases bits with
    | none => exact .inr ⟨.null, rfl, .inl ⟨rfl, .inl rfl⟩⟩
    | some n => exact .inr ⟨.int n, rfl, .inr ⟨n, rfl, .int n, h n rfl⟩⟩
  case level => exact .inr ⟨level.name, rfl, level.upper_name⟩
  case names =>
    intro name hname
    refine Plain.field?_eq_none_iff.2 fun f hf heq => hname ?_
    have hnames : name ∈ ["prompt", "int_bits", "log_level"] := heq ▸ List.mem_map_of_mem hf
    exact hnames

/-- What is read as settings is read as such again when it has been written: with a number of bits from 8 to 128 or none, and a
level by one of five names. And a record that names the same level in another case is read as the same settings. -/
theorem ofPlain_normal (h : ofPlain p = .ok s) :
    (∃ bits name, s.toPlain = .record [("prompt", .text s.prompt), ("int_bits", bits), ("log_level", .text name)] ∧
        (bits = .null ∨ ∃ n, bits = .int n ∧ 8 ≤ n ∧ n ≤ 128) ∧
        name ∈ ["DEBUG", "INFO", "WARNING", "ERROR", "CRITICAL"]) ∧
      ofPlain s.toPlain = .ok s ∧
      ∃ fields, p = .record fields ∧ s.ReadFrom fields ∧
        ∀ fields', SameUpToCase fields fields' → ofPlain (.record fields') = .ok s := by
  have hrange := inRange_of_ofPlain h
  obtain ⟨fields, rfl, hread⟩ := ofPlain_eq_ok_iff.1 h
  refine ⟨⟨_, _, rfl, ?_, ?_⟩, ofPlain_toPlain hrange, fields, rfl, hread, fun fields' hsame => ?_⟩
  · cases hbits : s.literalBits with
    | none => exact .inl rfl
    | some n => exact .inr ⟨n, rfl, hrange n hbits⟩
  · cases s.level <;> decide
  · exact ofPlain_eq_ok_iff.2 ⟨fields', rfl, hread.of_sameUpToCase hsame⟩

/-- A number of bits as a text with needless zeros, and a level with a letter beyond ASCII. -/
theorem ofPlain_normal_dotless :
    ofPlain (.record [("int_bits", .text "016"), ("log_level", .text "ınfo")]) = .ok ⟨" > ", some 16, .info⟩ ∧
      ofPlain (.record [("prompt", .text " > "), ("int_bits", .int 16), ("log_level", .text "INFO")]) =
        .ok ⟨" > ", some 16, .info⟩ ∧
      ofPlain (.record [("int_bits", .text "016"), ("log_level", .text "Info")]) = .ok ⟨" > ", some 16, .info⟩ := by
  have hread : ofPlain (.record [("int_bits", .text "016"), ("log_level", .text "ınfo")]) = .ok ⟨" > ", some 16, .info⟩ := by
    cbv
  obtain ⟨-, hagain, fields, hfields, -, hcase⟩ := ofPlain_normal hread
  obtain rfl := Plain.record.inj hfields
  refine ⟨hread, hagain, hcase _ ⟨?_, "ınfo", "Info", rfl, rfl, by decide +kernel⟩⟩
  intro name hname
  simp [Plain.field?_cons, hname.symm]

end Reckoner.Settings
