import Reckoner.Proofs.Scan.Classes

/-!
# Lexemes: the pieces that a scan cuts a text into

What a lexeme of a kind is (`Lexeme`) says nothing of how the scan finds it. A text that may be scanned begins with a blank,
or with a lexeme that its first character fixes and that the text after it does not extend; a scan takes that lexeme and goes
on after it (`scanFrom_lexeme`). `text_induction` is the induction that follows: nothing, a blank, a lexeme, or a character
that begins no token.
-/

namespace Reckoner

/-- The lexemes of a kind: a sign, a run of ASCII digits, a reserved word, or a run of word characters that is no reserved
word. -/
inductive Lexeme : Token.Kind → List Char → Prop where
  | plus : Lexeme .plus ['+']
  | minus : Lexeme .minus ['-']
  | times : Lexeme .times ['*']
  | number {cs : List Char} (hne : cs ≠ []) (hcs : ∀ c ∈ cs, c.isDigit = true) : Lexeme .number cs
  | trueWord : Lexeme .trueWord "true".toList
  | falseWord : Lexeme .falseWord "false".toList
  | word {cs : List Char} (hne : cs ≠ []) (hcs : ∀ c ∈ cs, isWordChar c = true) (ht : cs ≠ "true".toList)
      (hf : cs ≠ "false".toList) : Lexeme .word cs

/-- Whether a character beside a lexeme of a kind makes a longer run with it. -/
def Token.Kind.isExtendedBy : Token.Kind → Char → Bool
  | .number, c => c.isDigit
  | .word, c | .trueWord, c | .falseWord, c => isWordChar c
  | .plus, _ | .minus, _ | .times, _ | .endMark, _ => false

/-- A text that does not extend a lexeme of a kind before it. -/
def Token.Kind.StopsAt (k : Token.Kind) (rest : List Char) : Prop := ∀ c ∈ rest.head?, k.isExtendedBy c = false

/-- The longest run at the front of a text is the one that what follows it does not extend. -/
theorem takeWhile_run {p : Char → Bool} {cs rest : List Char} (h : ∀ c ∈ cs, p c = true)
    (hstop : ∀ c ∈ rest.head?, p c = false) : (cs ++ rest).takeWhile p = cs := by
  rw [List.takeWhile_append_of_pos h]
  cases rest with
  | nil => exact List.append_nil cs
  | cons c _ => rw [List.takeWhile_cons_of_neg (by simp [hstop c rfl]), List.append_nil]

/-- What is left when a run is dropped is what stands after it. -/
theorem dropWhile_run {p : Char → Bool} {cs rest : List Char} (h : ∀ c ∈ cs, p c = true)
    (hstop : ∀ c ∈ rest.head?, p c = false) : (cs ++ rest).dropWhile p = rest := by
  rw [List.dropWhile_append_of_pos h]
  cases rest with
  | nil => rfl
  | cons c _ => exact List.dropWhile_cons_of_neg (by simp [hstop c rfl])

/-- Two runs that what follows them does not extend are the same if their texts are. -/
theorem run_unique {p : Char → Bool} {cs cs' rest rest' : List Char} (h : ∀ c ∈ cs, p c = true) (h' : ∀ c ∈ cs', p c = true)
    (hstop : ∀ c ∈ rest.head?, p c = false) (hstop' : ∀ c ∈ rest'.head?, p c = false)
    (he : cs ++ rest = cs' ++ rest') : cs = cs' ∧ rest = rest' :=
  ⟨by rw [← takeWhile_run h hstop, he, takeWhile_run h' hstop'], by rw [← dropWhile_run h hstop, he, dropWhile_run h' hstop']⟩

/-- What is left when a run is dropped does not go on with the run. -/
theorem head?_dropWhile_eq_false {p : Char → Bool} {cs : List Char} : ∀ c ∈ (cs.dropWhile p).head?, p c = false := by
  intro c hc
  have h := List.head?_dropWhile_not p cs
  rw [Option.mem_def] at hc
  rwa [hc] at h

/-- A run of word characters is a lexeme of the kind that the scan gives it. -/
theorem lexeme_wordKind {l : List Char} (hne : l ≠ []) (hcs : ∀ c ∈ l, isWordChar c = true) : Lexeme (wordKind l) l := by
  unfold wordKind
  split
  · rename_i h
    rw [h]
    exact .trueWord
  · split
    · rename_i h
      rw [h]
      exact .falseWord
    · exact .word hne hcs ‹_› ‹_›

/-- A word is extended by word characters, whether it is reserved or not. -/
theorem isExtendedBy_wordKind (l : List Char) (c : Char) : (wordKind l).isExtendedBy c = isWordChar c := by
  unfold wordKind
  split
  · rfl
  · split <;> rfl

/-- The kind of a lexeme whose characters have a class. A blank is part of none. -/
def CharClass.lexemeKind : CharClass → List Char → Token.Kind
  | .blank, _ => .endMark
  | .operator k, _ => k
  | .digit, _ => .number
  | .wordChar, l => wordKind l

namespace Lexeme

variable {k k' : Token.Kind} {l l' rest rest' : List Char}

theorem ne_nil (h : Lexeme k l) : l ≠ [] := by
  cases h with
  | number hne _ => exact hne
  | word hne _ _ _ => exact hne
  | _ => exact List.cons_ne_nil _ _

theorem ne_endMark (h : Lexeme k l) : k ≠ .endMark := by
  cases h <;> nofun

/-- A lexeme is a sign, a run of ASCII digits, or a run of word characters of the kind that the scan gives it. -/
theorem shape (h : Lexeme k l) :
    (∃ c, operatorKind? c = some k ∧ l = [c]) ∨ (k = .number ∧ ∀ c ∈ l, c.isDigit = true) ∨
      (k = wordKind l ∧ ∀ c ∈ l, isWordChar c = true) := by
  cases h with
  | plus => exact .inl ⟨'+', rfl, rfl⟩
  | minus => exact .inl ⟨'-', rfl, rfl⟩
  | times => exact .inl ⟨'*', rfl, rfl⟩
  | number _ hcs => exact .inr (.inl ⟨rfl, hcs⟩)
  | trueWord => exact .inr (.inr ⟨by decide, List.all_eq_true.1 (by decide +kernel)⟩)
  | falseWord => exact .inr (.inr ⟨by decide, List.all_eq_true.1 (by decide +kernel)⟩)
  | word _ hcs ht hf => exact .inr (.inr ⟨by rw [wordKind, if_neg ht, if_neg hf], hcs⟩)

/-- A sign is a lexeme, and nothing extends it. -/
theorem of_operatorKind? {c : Char} (h : operatorKind? c = some k) : Lexeme k [c] ∧ ∀ d, k.isExtendedBy d = false := by
  have hc := mem_signs_of_operatorKind? h
  simp only [List.mem_cons, List.not_mem_nil, or_false] at hc
  rcases hc with rfl | rfl | rfl
  · cases h
    exact ⟨.plus, fun _ => rfl⟩
  · cases h
    exact ⟨.minus, fun _ => rfl⟩
  · cases h
    exact ⟨.times, fun _ => rfl⟩

/-- The class of any character of a lexeme and the lexeme itself tell its kind. -/
theorem exists_class (h : Lexeme k l) {c : Char} (hc : c ∈ l) :
    ∃ x, CharClass.of? c = some x ∧ k = x.lexemeKind l := by
  rcases h.shape with ⟨d, hd, rfl⟩ | ⟨rfl, hcs⟩ | ⟨rfl, hcs⟩
  · rw [List.mem_singleton.1 hc]
    exact ⟨_, of?_operator hd, rfl⟩
  · exact ⟨_, of?_digit (hcs c hc), rfl⟩
  · exact ⟨_, of?_wordChar (hcs c hc), rfl⟩

/-- A lexeme is of one kind. -/
theorem kind_unique (h : Lexeme k l) (h' : Lexeme k' l) : k = k' := by
  obtain ⟨c, hc⟩ := List.exists_mem_of_ne_nil l h.ne_nil
  obtain ⟨x, hx, rfl⟩ := h.exists_class hc
  obtain ⟨y, hy, rfl⟩ := h'.exists_class hc
  rw [Option.some.inj (hx.symm.trans hy)]

/-- A lexeme holds no blanks. -/
theorem isBlank_eq_false (h : Lexeme k l) {c : Char} (hc : c ∈ l) : isBlank c = false := by
  rcases h.shape with ⟨d, hd, rfl⟩ | ⟨-, hcs⟩ | ⟨-, hcs⟩
  · rw [List.mem_singleton.1 hc]
    exact (sign_excludes (mem_signs_of_operatorKind? hd)).1
  · exact (isDigit_excludes (hcs c hc)).1
  · exact (isWordChar_excludes (hcs c hc)).1

/-- A lexeme holds only characters that can be scanned. -/
theorem scannable (h : Lexeme k l) {c : Char} (hc : c ∈ l) : Scannable c := by
  rcases h.shape with ⟨d, hd, rfl⟩ | ⟨-, hcs⟩ | ⟨-, hcs⟩
  · rw [List.mem_singleton.1 hc]
    exact .inr (.inl (mem_signs_of_operatorKind? hd))
  · exact .inr (.inr (.inl (hcs c hc)))
  · exact .inr (.inr (.inr (hcs c hc)))

/-! ## Where a lexeme ends -/

/-- Extending a lexeme is joining any character of it. -/
theorem isExtendedBy_eq_joins (h : Lexeme k l) {c : Char} (hc : c ∈ l) (d : Char) : k.isExtendedBy d = joins c d := by
  rcases h.shape with ⟨e, he, rfl⟩ | ⟨rfl, hcs⟩ | ⟨rfl, hcs⟩
  · obtain ⟨-, hd, hw⟩ := sign_excludes (mem_signs_of_operatorKind? he)
    rw [List.mem_singleton.1 hc, (of_operatorKind? he).2]
    simp only [joins, hd, hw, Bool.false_and, Bool.or_self]
  · simp only [Token.Kind.isExtendedBy, joins, hcs c hc, (isDigit_excludes (hcs c hc)).2.2, Bool.true_and,
      Bool.false_and, Bool.or_false]
  · rw [isExtendedBy_wordKind]
    simp only [joins, hcs c hc, (isWordChar_excludes (hcs c hc)).2.2, Bool.true_and, Bool.false_and, Bool.false_or]

/-- In a lexeme of more than one character any two belong to one run. -/
theorem joins_of_mem (h : Lexeme k l) (hlen : 1 < l.length) {c d : Char} (hc : c ∈ l) (hd : d ∈ l) :
    joins c d = true := by
  rcases h.shape with ⟨e, -, rfl⟩ | ⟨-, hcs⟩ | ⟨-, hcs⟩
  · exact absurd hlen (by simp)
  · simp only [joins, hcs c hc, hcs d hd, Bool.and_self, Bool.true_or]
  · simp only [joins, hcs c hc, hcs d hd, Bool.and_self, Bool.or_true]

/-- A lexeme that the rest does not extend is as long as any lexeme at the front of the same text. -/
theorem length_le (h : Lexeme k l) (h' : Lexeme k' l') (hstop : k.StopsAt rest) (he : l ++ rest = l' ++ rest') :
    l'.length ≤ l.length := by
  rcases List.append_eq_append_iff.1 he with ⟨m, rfl, rfl⟩ | ⟨m, rfl, -⟩
  · cases m with
    | nil => simp
    | cons d m =>
      obtain ⟨c, hc⟩ := List.exists_mem_of_ne_nil l h.ne_nil
      have hlen : 1 < (l ++ d :: m).length := by
        have := List.length_pos_iff.2 h.ne_nil
        simp only [List.length_append, List.length_cons]
        omega
      have hj := h'.joins_of_mem hlen (List.mem_append_left _ hc) (d := d) (by simp)
      rw [← h.isExtendedBy_eq_joins hc, hstop d rfl] at hj
      exact absurd hj (by decide)
  · simp

/-- Maximal munch: a text begins with at most one lexeme that what follows does not extend. -/
theorem unique (h : Lexeme k l) (h' : Lexeme k' l') (hstop : k.StopsAt rest) (hstop' : k'.StopsAt rest')
    (he : l ++ rest = l' ++ rest') : k = k' ∧ l = l' ∧ rest = rest' := by
  have hlen := Nat.le_antisymm (h'.length_le h hstop' he.symm) (h.length_le h' hstop he)
  obtain ⟨rfl, hrest⟩ := List.append_inj he hlen
  exact ⟨h.kind_unique h', rfl, hrest⟩

end Lexeme

/-- A text that begins with a character that may be scanned and is no blank begins with a lexeme. -/
theorem exists_lexeme {c : Char} (hc : Scannable c) (hb : isBlank c = false) (cs : List Char) :
    ∃ k l rest, c :: cs = l ++ rest ∧ Lexeme k l ∧ k.StopsAt rest := by
  rcases hc with hc | hs | hd | hw
  · exact absurd hc (by simp [hb])
  · obtain ⟨k, hk⟩ := Option.isSome_iff_exists.1 (operatorKind?_isSome_iff.2 hs)
    exact ⟨k, [c], cs, rfl, (Lexeme.of_operatorKind? hk).1, fun d _ => (Lexeme.of_operatorKind? hk).2 d⟩
  · refine ⟨.number, c :: cs.takeWhile Char.isDigit, cs.dropWhile Char.isDigit, by simp, ?_, head?_dropWhile_eq_false⟩
    refine .number (List.cons_ne_nil _ _) (List.forall_mem_cons.2 ⟨hd, ?_⟩)
    exact List.all_eq_true.1 List.all_takeWhile
  · refine ⟨_, c :: cs.takeWhile isWordChar, cs.dropWhile isWordChar, by simp, lexeme_wordKind (List.cons_ne_nil _ _) ?_, ?_⟩
    · exact List.forall_mem_cons.2 ⟨hw, List.all_eq_true.1 List.all_takeWhile⟩
    · intro d hd
      rw [isExtendedBy_wordKind]
      exact head?_dropWhile_eq_false d hd

/-- Induction over a text as a scan takes it: nothing, a blank, a lexeme, or a character that begins no token. -/
@[elab_as_elim]
theorem text_induction {motive : List Char → Prop} (nil : motive [])
    (blank : ∀ c cs, isBlank c = true → motive cs → motive (c :: cs))
    (lexeme : ∀ k l rest, Lexeme k l → k.StopsAt rest → motive rest → motive (l ++ rest))
    (alien : ∀ c cs, ¬Scannable c → motive (c :: cs)) : ∀ cs, motive cs
  | [] => nil
  | c :: cs => by
    by_cases hc : Scannable c
    · cases hb : isBlank c with
      | true => exact blank c cs hb (text_induction nil blank lexeme alien cs)
      | false =>
        obtain ⟨k, l, rest, he, hl, hstop⟩ := exists_lexeme hc hb cs
        have hlt : rest.length < (c :: cs).length := by
          have := List.length_pos_iff.2 hl.ne_nil
          rw [he, List.length_append]
          omega
        rw [he]
        exact lexeme k l rest hl hstop (text_induction nil blank lexeme alien rest)
    · exact alien c cs hc
termination_by cs => cs.length
decreasing_by
  · assumption
  · exact Nat.lt_succ_self _

/-! ## The scan, step by step -/

theorem scanFrom_nil (i : Nat) : scanFrom i [] = .ok [Token.endOfLine i] := by
  rw [scanFrom]

/-- A blank is passed over. -/
theorem scanFrom_blank {c : Char} (h : isBlank c = true) (i : Nat) (cs : List Char) :
    scanFrom i (c :: cs) = scanFrom (i + 1) cs := by
  rw [scanFrom, of?_blank h]

/-- A character that cannot be scanned fails the scan at its place. -/
theorem scanFrom_alien {c : Char} (h : ¬Scannable c) (i : Nat) (cs : List Char) :
    scanFrom i (c :: cs) = .error ⟨c, i⟩ := by
  rw [scanFrom, of?_eq_none_iff.2 h]

/-- A scan takes a whole lexeme and goes on after it. -/
theorem scanFrom_lexeme {k : Token.Kind} {l rest : List Char} (h : Lexeme k l) (hstop : k.StopsAt rest) (i : Nat) :
    scanFrom i (l ++ rest) = (scanFrom (i + l.length) rest).map (⟨k, String.ofList l, i⟩ :: ·) := by
  rcases h.shape with ⟨c, hc, rfl⟩ | ⟨rfl, hcs⟩ | ⟨rfl, hcs⟩
  · rw [List.singleton_append, scanFrom, of?_operator hc, String.singleton_eq_ofList]
    rfl
  · obtain ⟨c, cs, rfl⟩ := List.exists_cons_of_ne_nil h.ne_nil
    obtain ⟨hd, hds⟩ := List.forall_mem_cons.1 hcs
    rw [List.cons_append, scanFrom, of?_digit hd]
    simp only [takeWhile_run hds hstop, dropWhile_run hds hstop]
  · obtain ⟨c, cs, rfl⟩ := List.exists_cons_of_ne_nil h.ne_nil
    obtain ⟨hw, hws⟩ := List.forall_mem_cons.1 hcs
    have hstop' : ∀ d ∈ rest.head?, isWordChar d = false := fun d hd => isExtendedBy_wordKind _ d ▸ hstop d hd
    rw [List.cons_append, scanFrom, of?_wordChar hw]
    simp only [takeWhile_run hws hstop', dropWhile_run hws hstop']

end Reckoner
