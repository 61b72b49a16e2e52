import Reckoner.Proofs.Plain.Integer
import Reckoner.Settings

/-!
# Reading settings: which plain values are settings, and which settings they are

A plain value is read as settings exactly if it is a record without foreign names and each of its fields says what the settings
have, or is absent where the settings have the default (`Settings.ofPlain_eq_ok_iff`). A number of bits is said by any integer in
range, however it is given, and the lack of one by nothing or any zero (`Settings.checkLiteralBits_eq_ok_iff`); a level by any
text with its name as the upper case (`Settings.checkLevel_eq_ok_iff`).
-/

namespace Reckoner

/-! ## Levels by name -/

/-- The name of a level is its own upper case. -/
theorem Level.upper_name (l : Level) : upper l.name.toList = l.name.toList := by
  cases l <;> decide +kernel

/-- A text names a level exactly if its upper case is the name of the level. -/
theorem Level.ofName?_eq_some_iff {s : String} {l : Level} : ofName? s = some l ↔ upper s.toList = l.name.toList := by
  unfold ofName?
  constructor
  · intro h
    have hname := List.find?_some (p := fun l : Level => l.name.toList == upper s.toList) h
    exact (beq_iff_eq.1 hname).symm
  · intro h
    rw [h]
    cases l <;> decide

namespace Settings

/-! ## Checks of the fields -/

variable {p : Plain} {fields : List (String × Plain)} {s : Settings}

/-- An integer is checked as a number of bits, however it is given: what is nothing is no integer. -/
theorem checkLiteralBits_of_isInteger {n : Int} (hn : p.IsInteger n) : checkLiteralBits p =
    if n = 0 then .ok none
    else if 8 ≤ n ∧ n ≤ 128 then .ok (some n)
    else Check.fail (.rule "int_bits must be between 8 and 128, or 0 for unbounded") := by
  have hp : p ≠ .null := by
    rintro rfl
    cases hn
  rw [checkLiteralBits, (Plain.reads_integer p n).2 hn]
  · rfl
  · exact hp

/-- A number of bits passes if it is in range; nothing and zero both pass as no number of bits. -/
theorem checkLiteralBits_eq_ok_iff {bits : Option Int} : checkLiteralBits p = .ok bits ↔
    (bits = none ∧ (p = .null ∨ p.IsInteger 0)) ∨ ∃ n, bits = some n ∧ p.IsInteger n ∧ 8 ≤ n ∧ n ≤ 128 := by
  constructor
  · intro h
    unfold checkLiteralBits at h
    split at h
    · exact .inl ⟨(Except.ok.inj h).symm, .inl rfl⟩
    · obtain ⟨n, hn, h⟩ := Check.bind_eq_ok_iff.1 h
      rw [Plain.reads_integer] at hn
      split_ifs at h with hzero hrange
      · exact .inl ⟨(Except.ok.inj h).symm, .inr (hzero ▸ hn)⟩
      · exact .inr ⟨n, (Except.ok.inj h).symm, hn, hrange⟩
      · exact absurd h Check.fail_ne_ok
  · rintro (⟨rfl, rfl | hzero⟩ | ⟨n, rfl, hn, hrange⟩)
    · rfl
    · rw [checkLiteralBits_of_isInteger hzero, if_pos rfl]
    · rw [checkLiteralBits_of_isInteger hn, if_neg (by omega), if_pos hrange]

/-- A level passes exactly if it is given by a text with its name as the upper case. -/
theorem checkLevel_eq_ok_iff {l : Level} :
    checkLevel p = .ok l ↔ ∃ name, p = .text name ∧ upper name.toList = l.name.toList := by
  have hnamed : ∀ name, checkLevel (.text name) = .ok l ↔ Level.ofName? name = some l := by
    intro name
    rw [checkLevel, Check.bind_eq_ok_iff]
    simp only [Plain.asText, Except.ok.injEq, exists_eq_left']
    split
    · rename_i l' hl'
      simp [hl']
    · rename_i hnone
      simp [hnone, Check.fail_ne_ok]
  constructor
  · intro h
    obtain ⟨name, hname, -⟩ := Check.bind_eq_ok_iff.1 h
    obtain rfl := Plain.asText_eq_ok_iff.1 hname
    exact ⟨name, rfl, Level.ofName?_eq_some_iff.1 ((hnamed name).1 h)⟩
  · rintro ⟨name, rfl, hupper⟩
    exact (hnamed name).2 (Level.ofName?_eq_some_iff.2 hupper)

/-- No name is unknown exactly if each of them is the name of a setting. -/
theorem unknownNames_eq_nil_iff : unknownNames fields = [] ↔ ∀ f ∈ fields, f.1 ∈ fieldNames := by
  rw [unknownNames, ← List.length_eq_zero_iff, List.length_mergeSort, List.length_eq_zero_iff, List.filter_eq_nil_iff]
  simp

/-- Names pass exactly if there is no value under any that is not the name of a setting. -/
theorem checkNames_eq_ok_iff :
    checkNames fields = .ok () ↔ ∀ name, name ∉ fieldNames → Plain.field? name fields = none := by
  have hnames : checkNames fields = .ok () ↔ unknownNames fields = [] := by
    unfold checkNames
    split
    · rename_i hnil
      simp [hnil]
    · rename_i hcons
      exact iff_of_false (fun h => by cases h) hcons
  rw [hnames, unknownNames_eq_nil_iff]
  constructor
  · intro h name hname
    exact Plain.field?_eq_none_iff.2 fun f hf heq => hname (heq ▸ h f hf)
  · intro h f hf
    by_contra hname
    exact Plain.field?_eq_none_iff.1 (h f.1 hname) f hf rfl

/-! ## Records that are settings -/

/-- What a record has to say to be read as settings: field by field the value that they have, or nothing where they have the
default, and no more. -/
structure ReadFrom (s : Settings) (fields : List (String × Plain)) : Prop where
  prompt : (Plain.field? "prompt" fields = none ∧ s.prompt = default.prompt) ∨
    Plain.field? "prompt" fields = some (.text s.prompt)
  literalBits : (Plain.field? "int_bits" fields = none ∧ s.literalBits = default.literalBits) ∨
    ∃ p, Plain.field? "int_bits" fields = some p ∧
      ((s.literalBits = none ∧ (p = .null ∨ p.IsInteger 0)) ∨
        ∃ n, s.literalBits = some n ∧ p.IsInteger n ∧ 8 ≤ n ∧ n ≤ 128)
  level : (Plain.field? "log_level" fields = none ∧ s.level = default.level) ∨
    ∃ name, Plain.field? "log_level" fields = some (.text name) ∧ upper name.toList = s.level.name.toList
  names : ∀ name, name ∉ fieldNames → Plain.field? name fields = none

/-- Settings are read from the fields of a record exactly if every field passes its check and no other field stands there. -/
theorem readFrom_iff : s.ReadFrom fields ↔
    Check.optional Plain.asText default.prompt "prompt" fields = .ok s.prompt ∧
      Check.optional checkLiteralBits default.literalBits "int_bits" fields = .ok s.literalBits ∧
      Check.optional checkLevel default.level "log_level" fields = .ok s.level ∧ checkNames fields = .ok () := by
  rw [Check.optional_eq_ok_iff, Check.optional_eq_ok_iff, Check.optional_eq_ok_iff, checkNames_eq_ok_iff]
  simp only [Plain.asText_eq_ok_iff, checkLiteralBits_eq_ok_iff, checkLevel_eq_ok_iff, exists_eq_right]
  constructor
  · rintro ⟨hprompt, hbits, hlevel, hnames⟩
    exact ⟨hprompt, hbits, hlevel.imp_right fun ⟨name, hname, hupper⟩ => ⟨_, hname, name, rfl, hupper⟩, hnames⟩
  · rintro ⟨hprompt, hbits, hlevel, hnames⟩
    exact ⟨hprompt, hbits, hlevel.imp_right fun ⟨_, hp, name, hname, hupper⟩ => ⟨name, hname ▸ hp, hupper⟩, hnames⟩

/-- A plain value is read as settings exactly if it is a record that says them. -/
theorem ofPlain_eq_ok_iff : ofPlain p = .ok s ↔ ∃ fields, p = .record fields ∧ s.ReadFrom fields := by
  have hrecord : ∀ fields, ofPlain (.record fields) = .ok s ↔ s.ReadFrom fields := by
    intro fields
    rw [readFrom_iff, ← Check.both_eq_ok_iff, ← Check.both_eq_ok_iff, ← Check.both_eq_ok_iff, ofPlain, Check.map_eq_ok_iff]
    constructor
    · rintro ⟨⟨prompt, bits, level, u⟩, hparts, rfl⟩
      exact hparts
    · intro hparts
      exact ⟨_, hparts, rfl⟩
  constructor
  · intro h
    cases p with
    | record fields => exact ⟨fields, rfl, (hrecord fields).1 h⟩
    | _ => exact absurd h Check.fail_ne_ok
  · rintro ⟨fields, rfl, h⟩
    exact (hrecord fields).2 h

end Settings

end Reckoner
