import Reckoner.Proofs.Scan.Lexeme

/-!
# Tokenizations: the one way to cut a line into tokens

What the tokens of a line are is said without the scan: each token lies at its position as the longest lexeme there, the
tokens follow one another, they cover every character that is no blank and no blank, and the end mark comes last
(`IsTokenization`). A line has at most one tokenization, and a scan gives it. A scan fails exactly on a line that holds a
character that may not be scanned, and names the first one.
-/

namespace Reckoner

/-! ## Tokens in a text -/

/-- A token lies in a text that begins at position `i`: its text is a lexeme of its kind, stands at its position, and is not
extended by the character before it or after it. -/
def Token.LiesIn (t : Token) (i : Nat) (cs : List Char) : Prop :=
  Lexeme t.kind t.text.toList ∧
    ∃ before after, cs = before ++ t.text.toList ++ after ∧ t.position = (i + before.length : Nat) ∧
      (∀ c ∈ before.getLast?, t.kind.isExtendedBy c = false) ∧ t.kind.StopsAt after

/-- A token comes before another one and ends before it. -/
def Token.Precedes (t u : Token) : Prop := t.position < u.position ∧ t.position + t.text.length ≤ u.position

/-- The character at a position belongs to a token. -/
def Token.Covers (t : Token) (p : Nat) : Prop := t.position ≤ p ∧ p < t.position + t.text.length

/-- A list of tokens is cut out of a line. -/
structure IsTokenization (cs : List Char) (ts : List Token) : Prop where
  last : ts.getLast? = some (Token.endOfLine cs.length)
  once : ∀ t ∈ ts.dropLast, t.kind ≠ .endMark
  ordered : ts.Pairwise Token.Precedes
  lies : ∀ t ∈ ts.dropLast, t.LiesIn 0 cs
  covered : ∀ p c, cs[p]? = some c → (isBlank c = true ↔ ∀ t ∈ ts.dropLast, ¬t.Covers p)

/-- The tokens of a text that begins at position `i`, without the end mark. -/
structure LaysOut (i : Nat) (cs : List Char) (ts : List Token) : Prop where
  ordered : ts.Pairwise Token.Precedes
  lies : ∀ t ∈ ts, t.LiesIn i cs
  covered : ∀ p c, cs[p]? = some c → (isBlank c = true ↔ ∀ t ∈ ts, ¬t.Covers (i + p))

namespace Token.LiesIn

variable {t : Token} {i : Nat} {a cs : List Char}

theorem length_pos (h : t.LiesIn i cs) : 0 < t.text.length := by
  rw [← String.length_toList]
  exact List.length_pos_iff.2 h.1.ne_nil

/-- A token begins and ends within the text it lies in. -/
theorem bounds (h : t.LiesIn i cs) : (i : Int) ≤ t.position ∧ t.position + t.text.length ≤ (i + cs.length : Nat) := by
  obtain ⟨-, before, after, rfl, hp, -, -⟩ := h
  simp only [List.length_append, String.length_toList]
  omega

/-- A token that covers the beginning of a text is its front. -/
theorem front (h : t.LiesIn i cs) (hcov : t.Covers i) :
    ∃ after, cs = t.text.toList ++ after ∧ t.position = i ∧ t.kind.StopsAt after := by
  obtain ⟨-, before, after, he, hp, -, hafter⟩ := h
  have hbefore : before = [] := by
    simp only [Token.Covers] at hcov
    exact List.eq_nil_of_length_eq_zero (by omega)
  subst hbefore
  exact ⟨after, he, hp, hafter⟩

/-- A token of a text lies in the part of it that it does not begin before. -/
theorem drop (h : t.LiesIn i (a ++ cs)) (hle : (i + a.length : Nat) ≤ t.position) : t.LiesIn (i + a.length) cs := by
  obtain ⟨hl, before, after, he, hp, hbefore, hafter⟩ := h
  have hlen : a.length ≤ before.length := by omega
  rw [List.append_assoc] at he
  rcases List.append_eq_append_iff.1 he with ⟨m, rfl, rfl⟩ | ⟨m, rfl, hm⟩
  · refine ⟨hl, m, after, by rw [List.append_assoc], by rw [hp, List.length_append, Nat.add_assoc], fun c hc => ?_, hafter⟩
    refine hbefore c ?_
    rw [List.getLast?_append, Option.mem_def.1 hc]
    rfl
  · have hm' : m = [] := by
      rw [List.length_append] at hlen
      exact List.eq_nil_of_length_eq_zero (by omega)
    subst hm'
    refine ⟨hl, [], after, by simpa using hm.symm, by simpa using hp, nofun, hafter⟩

/-- A token of the rest of a text lies in the whole text, unless a run goes on across the border. -/
theorem prepend (h : t.LiesIn (i + a.length) cs) (hj : ∀ c ∈ a.getLast?, ∀ d ∈ cs.head?, joins c d = false) :
    t.LiesIn i (a ++ cs) := by
  obtain ⟨hl, before, after, rfl, hp, hbefore, hafter⟩ := h
  refine ⟨hl, a ++ before, after, by simp only [List.append_assoc], by rw [hp, List.length_append, Nat.add_assoc], ?_, hafter⟩
  intro c hc
  rw [List.getLast?_append] at hc
  cases before with
  | cons b before =>
    refine hbefore c ?_
    rw [List.getLast?_cons] at hc ⊢
    exact hc
  | nil =>
    obtain ⟨d, ds, hd⟩ := List.exists_cons_of_ne_nil hl.ne_nil
    have hmem : d ∈ t.text.toList := by rw [hd]; exact List.mem_cons_self
    rw [hl.isExtendedBy_eq_joins hmem, joins_comm]
    exact hj c hc d (by rw [List.nil_append, hd]; rfl)

end Token.LiesIn

namespace LaysOut

variable {t : Token} {i : Nat} {cs : List Char} {ts : List Token}

/-- A character that is no blank belongs to a token. -/
theorem exists_covers (h : LaysOut i cs ts) {p : Nat} {c : Char} (hp : cs[p]? = some c) (hc : isBlank c = false) :
    ∃ t ∈ ts, t.Covers (i + p) := by
  refine Classical.byContradiction fun hnone => ?_
  have hblank := (h.covered p c hp).2 fun t ht hcov => hnone ⟨t, ht, hcov⟩
  rw [hc] at hblank
  exact absurd hblank (by decide)

/-- A token that covers the beginning of the text is the first one. -/
theorem eq_cons_of_covers (h : LaysOut i cs ts) (ht : t ∈ ts) (hcov : t.Covers i) : ∃ us, ts = t :: us := by
  obtain ⟨pre, us, rfl⟩ := List.append_of_mem ht
  have hpre : pre = [] := by
    refine List.eq_nil_iff_forall_not_mem.2 fun u hu => ?_
    have hprec := (List.pairwise_append.1 h.ordered).2.2 u hu t List.mem_cons_self
    have hb := (h.lies u (List.mem_append_left _ hu)).bounds
    simp only [Token.Precedes, Token.Covers] at hprec hcov
    omega
  exact ⟨us, by rw [hpre, List.nil_append]⟩

end LaysOut

/-! ## One step of a text -/

/-- A text without characters has no tokens. -/
theorem laysOut_nil_iff {i : Nat} {ts : List Token} : LaysOut i [] ts ↔ ts = [] := by
  constructor
  · intro h
    cases ts with
    | nil => rfl
    | cons t ts =>
      have ht := h.lies t List.mem_cons_self
      have hb := ht.bounds
      have hp := ht.length_pos
      rw [List.length_nil] at hb
      omega
  · rintro rfl
    exact ⟨.nil, nofun, nofun⟩

/-- A blank at the front of a text belongs to no token. -/
theorem laysOut_blank_iff {i : Nat} {c : Char} {cs : List Char} {ts : List Token} (hc : isBlank c = true) :
    LaysOut i (c :: cs) ts ↔ LaysOut (i + 1) cs ts := by
  constructor
  · intro h
    refine ⟨h.ordered, fun t ht => (h.lies t ht).drop (a := [c]) ?_, fun p d hd => ?_⟩
    · have hcov := (h.covered 0 c rfl).1 hc t ht
      have hb := (h.lies t ht).bounds
      have hp := (h.lies t ht).length_pos
      simp only [Token.Covers, List.length_singleton] at hcov ⊢
      omega
    · rw [Nat.add_right_comm]
      exact h.covered (p + 1) d hd
  · intro h
    refine ⟨h.ordered, fun t ht => (h.lies t ht).prepend (a := [c]) ?_, fun p d hd => ?_⟩
    · intro b hb d _
      obtain rfl : c = b := Option.some.inj hb
      exact joins_of_isBlank hc d
    · cases p with
      | zero =>
        cases hd
        refine iff_of_true hc fun t ht hcov => ?_
        have hb := (h.lies t ht).bounds
        simp only [Token.Covers] at hcov
        omega
      | succ p =>
        rw [← Nat.add_assoc, Nat.add_right_comm]
        exact h.covered p d hd

/-- A text that begins with a character that may not be scanned has no tokens. -/
theorem not_laysOut_alien {i : Nat} {c : Char} {cs : List Char} {ts : List Token} (hc : ¬Scannable c) :
    ¬LaysOut i (c :: cs) ts := by
  intro h
  obtain ⟨t, ht, hcov⟩ := h.exists_covers (p := 0) rfl (Bool.eq_false_iff.2 fun hb => hc (.inl hb))
  obtain ⟨after, he, -, -⟩ := (h.lies t ht).front hcov
  have hl := (h.lies t ht).1
  obtain ⟨d, ds, hd⟩ := List.exists_cons_of_ne_nil hl.ne_nil
  rw [hd] at he
  obtain rfl : c = d := (List.cons.inj he).1
  exact hc (hl.scannable (by rw [hd]; exact List.mem_cons_self))

section Lexeme

variable {k : Token.Kind} {l rest : List Char} {i : Nat} {ts us : List Token}

/-- The token that a lexeme at position `i` is. -/
def lexemeToken (k : Token.Kind) (l : List Char) (i : Nat) : Token := ⟨k, String.ofList l, i⟩

/-- The token of a lexeme covers the places of the lexeme. -/
theorem covers_lexemeToken_iff {p : Nat} : (lexemeToken k l i).Covers (i + p) ↔ p < l.length := by
  simp only [Token.Covers, lexemeToken, String.length_ofList]
  omega

/-- A token that covers the front of a text is the lexeme there. -/
theorem eq_lexemeToken (h : Lexeme k l) (hstop : k.StopsAt rest) {t : Token} (ht : t.LiesIn i (l ++ rest))
    (hcov : t.Covers i) : t = lexemeToken k l i := by
  obtain ⟨after, he, hp, hafter⟩ := ht.front hcov
  obtain ⟨hk, htext, -⟩ := h.unique ht.1 hstop hafter he
  obtain ⟨kind, text, position⟩ := t
  simp only [lexemeToken] at hk htext hp ⊢
  rw [hk, htext, String.ofList_toList, hp]

/-- A lexeme at the front of a text that the rest does not extend is the first token, and the rest holds the others. -/
theorem laysOut_lexeme_iff (h : Lexeme k l) (hstop : k.StopsAt rest) :
    LaysOut i (l ++ rest) ts ↔ ∃ us, ts = lexemeToken k l i :: us ∧ LaysOut (i + l.length) rest us := by
  have hlen := List.length_pos_iff.2 h.ne_nil
  have hshift : ∀ p c, rest[p]? = some c → (l ++ rest)[l.length + p]? = some c := fun p c hc => by
    rw [List.getElem?_append_right (Nat.le_add_right _ _), Nat.add_sub_cancel_left]
    exact hc
  constructor
  · intro hts
    obtain ⟨c, cs, rfl⟩ := List.exists_cons_of_ne_nil h.ne_nil
    obtain ⟨t, ht, hcov⟩ := hts.exists_covers (p := 0) rfl (h.isBlank_eq_false List.mem_cons_self)
    obtain rfl := eq_lexemeToken h hstop (hts.lies t ht) hcov
    obtain ⟨us, rfl⟩ := hts.eq_cons_of_covers ht hcov
    obtain ⟨hfirst, hordered⟩ := List.pairwise_cons.1 hts.ordered
    refine ⟨us, rfl, hordered, fun u hu => ?_, fun p d hd => ?_⟩
    · refine (hts.lies u (List.mem_cons_of_mem _ hu)).drop ?_
      have := (hfirst u hu).2
      simp only [lexemeToken, String.length_ofList] at this
      omega
    · rw [hts.covered _ d (hshift p d hd), List.forall_mem_cons, covers_lexemeToken_iff, Nat.add_assoc]
      exact and_iff_right (by omega)
  · rintro ⟨us, rfl, hus⟩
    refine ⟨List.pairwise_cons.2 ⟨fun u hu => ?_, hus.ordered⟩, List.forall_mem_cons.2 ⟨?_, fun u hu => ?_⟩, fun p d hd => ?_⟩
    · have hb := (hus.lies u hu).bounds
      simp only [Token.Precedes, lexemeToken, String.length_ofList]
      omega
    · refine ⟨by simpa only [lexemeToken, String.toList_ofList] using h, [], rest, ?_, rfl, nofun, hstop⟩
      simp only [lexemeToken, String.toList_ofList, List.nil_append]
    · refine (hus.lies u hu).prepend fun c hc d hd => ?_
      rw [← h.isExtendedBy_eq_joins (List.mem_of_mem_getLast? hc)]
      exact hstop d hd
    · rw [List.forall_mem_cons, covers_lexemeToken_iff]
      rcases Nat.lt_or_ge p l.length with hp | hp
      · rw [List.getElem?_append_left hp] at hd
        refine iff_of_false ?_ fun hn => hn.1 hp
        simp [h.isBlank_eq_false (List.mem_of_getElem? hd)]
      · rw [List.getElem?_append_right hp] at hd
        rw [hus.covered _ d hd, Nat.add_assoc, Nat.add_sub_cancel' hp]
        exact (and_iff_right (by omega)).symm

end Lexeme

/-! ## The scan and the tokens of a text -/

/-- A scan gives the tokens of the text, and the end mark after them. -/
theorem scanFrom_eq_ok_iff {i : Nat} {cs : List Char} {ts : List Token} :
    scanFrom i cs = .ok ts ↔ ∃ us, ts = us ++ [Token.endOfLine (i + cs.length)] ∧ LaysOut i cs us := by
  induction cs using text_induction generalizing i ts with
  | nil =>
    simp only [scanFrom_nil, laysOut_nil_iff, List.length_nil, Nat.add_zero, exists_eq_right, List.nil_append,
      Except.ok.injEq, eq_comm]
  | blank c cs hc ih =>
    simp only [scanFrom_blank hc, ih, laysOut_blank_iff hc, List.length_cons, Nat.add_right_comm, Nat.add_assoc]
  | lexeme k l rest hl hstop ih =>
    simp only [scanFrom_lexeme hl hstop, laysOut_lexeme_iff hl hstop, List.length_append, ← Nat.add_assoc]
    constructor
    · intro h
      cases hs : scanFrom (i + l.length) rest with
      | error e =>
        rw [hs] at h
        exact absurd h nofun
      | ok vs =>
        rw [hs] at h
        obtain ⟨us, rfl, hus⟩ := ih.1 hs
        exact ⟨_, (Except.ok.inj h).symm, us, rfl, hus⟩
    · rintro ⟨_, rfl, us, rfl, hus⟩
      rw [ih.2 ⟨us, rfl, hus⟩]
      rfl
  | alien c cs hc =>
    simp only [scanFrom_alien hc, not_laysOut_alien hc, and_false, exists_false, reduceCtorEq]

/-! ## The first character that may not be scanned -/

/-- An error names the first character that may not be scanned in a text that begins at position `i`. -/
def ScanError.IsFirstIn (e : ScanError) (i : Nat) (cs : List Char) : Prop :=
  ∃ before after, cs = before ++ e.character :: after ∧ e.position = i + before.length ∧ ¬Scannable e.character ∧
    ∀ c ∈ before, Scannable c

/-- Characters that may be scanned can be left out in front. -/
theorem isFirstIn_append_iff {e : ScanError} {i : Nat} {a cs : List Char} (ha : ∀ c ∈ a, Scannable c) :
    e.IsFirstIn i (a ++ cs) ↔ e.IsFirstIn (i + a.length) cs := by
  constructor
  · rintro ⟨before, after, he, hp, hc, hbefore⟩
    rcases List.append_eq_append_iff.1 he with ⟨m, rfl, rfl⟩ | ⟨m, rfl, hm⟩
    · rw [List.length_append, ← Nat.add_assoc] at hp
      exact ⟨m, after, rfl, hp, hc, fun c hc => hbefore c (List.mem_append_right _ hc)⟩
    · cases m with
      | nil => exact ⟨[], after, hm.symm, by simpa using hp, hc, nofun⟩
      | cons d m =>
        obtain ⟨rfl, -⟩ := List.cons.inj hm
        exact absurd (ha _ (List.mem_append_right _ List.mem_cons_self)) hc
  · rintro ⟨before, after, rfl, hp, hc, hbefore⟩
    refine ⟨a ++ before, after, by rw [List.append_assoc], by rw [hp, List.length_append, Nat.add_assoc], hc, fun c hc => ?_⟩
    rcases List.mem_append.1 hc with hc | hc
    · exact ha c hc
    · exact hbefore c hc

/-- A scan fails at the first character that may not be scanned. -/
theorem scanFrom_eq_error_iff {i : Nat} {cs : List Char} {e : ScanError} :
    scanFrom i cs = .error e ↔ e.IsFirstIn i cs := by
  induction cs using text_induction generalizing i with
  | nil =>
    refine iff_of_false (by rw [scanFrom_nil]; nofun) ?_
    rintro ⟨before, after, h, -⟩
    exact absurd h.symm (by simp)
  | blank c cs hc ih =>
    rw [scanFrom_blank hc, ih]
    exact (isFirstIn_append_iff (a := [c]) fun d hd => List.mem_singleton.1 hd ▸ .inl hc).symm
  | lexeme k l rest hl hstop ih =>
    rw [scanFrom_lexeme hl hstop, isFirstIn_append_iff fun c hc => hl.scannable hc, ← ih]
    cases scanFrom (i + l.length) rest with
    | error _ => exact ⟨fun h => h, fun h => h⟩
    | ok _ => exact ⟨nofun, nofun⟩
  | alien c cs hc =>
    rw [scanFrom_alien hc]
    constructor
    · rintro h
      obtain rfl := Except.error.inj h
      exact ⟨[], cs, rfl, rfl, hc, nofun⟩
    · rintro ⟨before, after, h, hp, he, hbefore⟩
      cases before with
      | nil =>
        obtain ⟨rfl, -⟩ := List.cons.inj h
        rw [List.length_nil, Nat.add_zero] at hp
        rw [← hp]
      | cons b before =>
        obtain ⟨rfl, -⟩ := List.cons.inj h
        exact absurd (hbefore c List.mem_cons_self) hc

/-- Among the characters of a text one may not be scanned exactly if there is a first one. -/
theorem exists_isFirstIn_iff {i : Nat} {cs : List Char} : (∃ e : ScanError, e.IsFirstIn i cs) ↔ ∃ c ∈ cs, ¬Scannable c := by
  constructor
  · rintro ⟨e, before, after, rfl, -, hc, -⟩
    exact ⟨e.character, by simp, hc⟩
  · rintro ⟨c, hc, hs⟩
    induction cs generalizing i with
    | nil => exact absurd hc (List.not_mem_nil)
    | cons d cs ih =>
      by_cases hd : Scannable d
      · have hmem : c ∈ cs := by
          rcases List.mem_cons.1 hc with rfl | hc
          · exact absurd hd hs
          · exact hc
        obtain ⟨e, he⟩ := ih (i := i + 1) hmem
        exact ⟨e, (isFirstIn_append_iff (a := [d]) fun x hx => List.mem_singleton.1 hx ▸ hd).2 he⟩
      · exact ⟨⟨d, i⟩, [], cs, rfl, rfl, hd, nofun⟩

/-! ## The scan of a line -/

/-- A scan gives the tokens that a text lays out, and an end mark after them. -/
theorem scan_eq_ok_iff {source : String} {ts : List Token} :
    scan source = .ok ts ↔ ∃ us, ts = us ++ [Token.endOfLine source.toList.length] ∧ LaysOut 0 source.toList us := by
  rw [scan, scanFrom_eq_ok_iff, Nat.zero_add]

/-- A scan fails at the first alien character. -/
theorem scan_eq_error_iff {source : String} {e : ScanError} :
    scan source = .error e ↔ e.IsFirstIn 0 source.toList := scanFrom_eq_error_iff

/-- A list is a tokenization of a text exactly if the text lays it out, with an end mark after it. -/
theorem isTokenization_iff {cs : List Char} {ts : List Token} :
    IsTokenization cs ts ↔ ∃ us, ts = us ++ [Token.endOfLine cs.length] ∧ LaysOut 0 cs us := by
  constructor
  · intro h
    obtain ⟨us, rfl⟩ := List.getLast?_eq_some_iff.1 h.last
    have hlies := h.lies
    have hcovered := h.covered
    rw [List.dropLast_concat] at hlies hcovered
    refine ⟨us, rfl, (List.pairwise_append.1 h.ordered).1, hlies, fun p c hc => ?_⟩
    rw [Nat.zero_add]
    exact hcovered p c hc
  · rintro ⟨us, rfl, h⟩
    refine ⟨List.getLast?_concat, ?_, ?_, ?_, fun p c hc => ?_⟩
    · rw [List.dropLast_concat]
      exact fun t ht => (h.lies t ht).1.ne_endMark
    · refine List.pairwise_append.2 ⟨h.ordered, List.pairwise_singleton _ _, fun t ht u hu => ?_⟩
      have hb := (h.lies t ht).bounds
      have hp := (h.lies t ht).length_pos
      rw [List.mem_singleton.1 hu]
      simp only [Token.Precedes, Token.endOfLine]
      omega
    · rw [List.dropLast_concat]
      exact h.lies
    · rw [List.dropLast_concat, h.covered p c hc, Nat.zero_add]

/-- A scan fails exactly on a line that holds a character that may not be scanned, and its error is then the first such
character and its place. On every other line it gives a list of tokens, and this is the one tokenization of the line. -/
theorem scan_exact (source : String) :
    ((∃ e, scan source = .error e) ↔ ∃ c ∈ source.toList, ¬Scannable c) ∧
      (∀ e, scan source = .error e ↔ e.IsFirstIn 0 source.toList) ∧
      ((∃ ts, scan source = .ok ts) ↔ ∀ c ∈ source.toList, Scannable c) ∧
      (∀ ts, scan source = .ok ts ↔ IsTokenization source.toList ts) := by
  have herror : (∃ e, scan source = .error e) ↔ ∃ c ∈ source.toList, ¬Scannable c := by
    rw [← exists_isFirstIn_iff (i := 0)]
    exact exists_congr fun e => scanFrom_eq_error_iff
  refine ⟨herror, fun e => scanFrom_eq_error_iff, ⟨?_, ?_⟩, fun ts => ?_⟩
  · rintro ⟨ts, hts⟩ c hc
    refine Classical.byContradiction fun hs => ?_
    obtain ⟨e, he⟩ := herror.2 ⟨c, hc, hs⟩
    exact absurd (hts.symm.trans he) nofun
  · intro hall
    cases hscan : scan source with
    | ok ts => exact ⟨ts, rfl⟩
    | error e =>
      obtain ⟨c, hc, hs⟩ := herror.1 ⟨e, hscan⟩
      exact absurd (hall c hc) hs
  · rw [isTokenization_iff, scan, scanFrom_eq_ok_iff, Nat.zero_add]

end Reckoner
