import Reckoner.Proofs.Line.OnePass
import Reckoner.Proofs.Numeral.Decimal
import Reckoner.Proofs.Scan.Lexeme

/-!
# Line forms: the lines that are expressions, character by character

A line form spells out a line as gaps, runs of ASCII digits and signs: a literal, any number of further literals with a sign
before each, and gaps wherever two of them meet and at both ends. A form has a text, and a text has at most one form
(`text_injective`), so the literals and operators of a line are told by its characters alone.
-/

namespace Reckoner

/-- Any number of blanks. -/
structure Gap where
  chars : List Char
  blank : ∀ c ∈ chars, isBlank c = true

/-- A run of at least one ASCII digit. -/
structure DigitRun where
  chars : List Char
  ne_nil : chars ≠ []
  digit : ∀ c ∈ chars, c.isDigit = true

/-- The value of a run of digits. -/
def DigitRun.value (d : DigitRun) : Int := decimal d.chars

/-- The sign that an operator is written with. -/
def Operator.sign : Operator → Char
  | .join .plus => '+'
  | .join .minus => '-'
  | .times => '*'

/-- An operator and the literal after it, a gap before each. -/
@[ext]
structure Link where
  before : Gap
  operator : Operator
  after : Gap
  literal : DigitRun

namespace Link

/-- The characters of a link. -/
def text (k : Link) : List Char := k.before.chars ++ k.operator.sign :: (k.after.chars ++ k.literal.chars)

/-- The operation of a link. -/
def operation (k : Link) : Operation := (k.operator, k.literal.value)

end Link

/-- A line as gaps, literals and operators. -/
@[ext]
structure LineForm where
  lead : Gap
  first : DigitRun
  links : List Link
  trail : Gap

namespace LineForm

/-- The characters of a line form. -/
def text (f : LineForm) : List Char := f.lead.chars ++ (f.first.chars ++ (f.links.flatMap Link.text ++ f.trail.chars))

/-- Every literal of a line form is one of the width. -/
def Fits (w : Width) (f : LineForm) : Prop := ∀ d ∈ f.first :: f.links.map Link.literal, IsLiteral w d.chars

/-- The value of the literals and operators of a line form, in one pass. -/
def value (f : LineForm) : Int := onePass f.first.value (f.links.map Link.operation)

end LineForm

/-! ## Borders -/

/-- An operator is written with one of the three signs. -/
theorem sign_mem (o : Operator) : o.sign ∈ ['+', '-', '*'] := by
  rcases o with ⟨_ | _⟩ | _ <;> decide

theorem sign_injective {o o' : Operator} (h : o.sign = o'.sign) : o = o' := by
  rcases o with ⟨_ | _⟩ | _ <;> rcases o' with ⟨_ | _⟩ | _ <;> first | rfl | exact absurd h (by decide)

/-- No blank comes first where a run of digits does. -/
theorem DigitRun.isBlank_head (d : DigitRun) (rest : List Char) : ∀ c ∈ (d.chars ++ rest).head?, isBlank c = false := by
  intro c hc
  obtain ⟨b, bs, hb⟩ := List.exists_cons_of_ne_nil d.ne_nil
  rw [hb] at hc
  obtain rfl : b = c := Option.some.inj hc
  exact (isDigit_excludes (d.digit b (by rw [hb]; exact List.mem_cons_self))).1

/-- What follows a literal does not go on with its digits. -/
theorem isDigit_head_links (ks : List Link) (g : Gap) : ∀ c ∈ (ks.flatMap Link.text ++ g.chars).head?, c.isDigit = false := by
  have hgap : ∀ (g : Gap) (rest : List Char), (∀ c ∈ rest.head?, c.isDigit = false) →
      ∀ c ∈ (g.chars ++ rest).head?, c.isDigit = false := by
    intro g rest hrest c hc
    rw [List.head?_append] at hc
    cases hg : g.chars.head? with
    | none =>
      rw [hg] at hc
      exact hrest c hc
    | some b =>
      rw [hg] at hc
      obtain rfl : b = c := Option.some.inj hc
      exact (isBlank_excludes (g.blank b (List.mem_of_mem_head? hg))).2.1
  cases ks with
  | nil =>
    have := hgap g [] nofun
    rwa [List.append_nil] at this
  | cons k ks =>
    rw [List.flatMap_cons, Link.text, List.append_assoc, List.append_assoc]
    refine hgap _ _ fun c hc => ?_
    obtain rfl : k.operator.sign = c := Option.some.inj hc
    exact (sign_excludes (sign_mem k.operator)).2.1

/-! ## A text has one form -/

/-- Two gaps before texts that begin with no blank are the same. -/
theorem Gap.unique {g g' : Gap} {rest rest' : List Char} (h : ∀ c ∈ rest.head?, isBlank c = false)
    (h' : ∀ c ∈ rest'.head?, isBlank c = false) (he : g.chars ++ rest = g'.chars ++ rest') : g = g' ∧ rest = rest' := by
  obtain ⟨cs, hcs⟩ := g
  obtain ⟨cs', hcs'⟩ := g'
  obtain ⟨rfl, hrest⟩ := run_unique hcs hcs' h h' he
  exact ⟨rfl, hrest⟩

/-- Two runs of digits before texts that begin with no digit are the same. -/
theorem DigitRun.unique {d d' : DigitRun} {rest rest' : List Char} (h : ∀ c ∈ rest.head?, c.isDigit = false)
    (h' : ∀ c ∈ rest'.head?, c.isDigit = false) (he : d.chars ++ rest = d'.chars ++ rest') : d = d' ∧ rest = rest' := by
  obtain ⟨cs, hne, hcs⟩ := d
  obtain ⟨cs', hne', hcs'⟩ := d'
  obtain ⟨rfl, hrest⟩ := run_unique hcs hcs' h h' he
  exact ⟨rfl, hrest⟩

theorem isBlank_head_sign (o : Operator) (rest : List Char) : ∀ c ∈ (o.sign :: rest).head?, isBlank c = false := by
  intro c hc
  obtain rfl : o.sign = c := Option.some.inj hc
  exact (sign_excludes (sign_mem o)).1

/-- The characters of a link one after another, with what follows them. -/
theorem Link.text_append (k : Link) (rest : List Char) :
    k.text ++ rest = k.before.chars ++ k.operator.sign :: (k.after.chars ++ (k.literal.chars ++ rest)) := by
  simp only [Link.text, List.append_assoc, List.cons_append]

/-- A gap alone is no link: it holds no sign. -/
theorem Link.text_append_ne_gap (k : Link) (rest : List Char) (g : Gap) : k.text ++ rest ≠ g.chars := by
  intro h
  have hmem : k.operator.sign ∈ g.chars := by
    rw [← h, Link.text_append]
    exact List.mem_append_right _ List.mem_cons_self
  have hblank := g.blank _ hmem
  rw [(sign_excludes (sign_mem k.operator)).1] at hblank
  exact absurd hblank (by decide)

/-- The links of a text and the gap after them are told by the text. -/
theorem links_unique {ks ks' : List Link} {g g' : Gap}
    (h : ks.flatMap Link.text ++ g.chars = ks'.flatMap Link.text ++ g'.chars) : ks = ks' ∧ g = g' := by
  induction ks generalizing ks' with
  | nil =>
    cases ks' with
    | nil =>
      obtain ⟨cs, hcs⟩ := g
      obtain ⟨cs', hcs'⟩ := g'
      obtain rfl : cs = cs' := h
      exact ⟨rfl, rfl⟩
    | cons k' ks' =>
      rw [List.flatMap_cons, List.append_assoc] at h
      exact absurd h.symm (k'.text_append_ne_gap _ g)
  | cons k ks ih =>
    cases ks' with
    | nil =>
      rw [List.flatMap_cons, List.append_assoc] at h
      exact absurd h (k.text_append_ne_gap _ g')
    | cons k' ks' =>
      rw [List.flatMap_cons, List.flatMap_cons, List.append_assoc, List.append_assoc, Link.text_append, Link.text_append] at h
      obtain ⟨hbefore, hsign⟩ := Gap.unique (isBlank_head_sign _ _) (isBlank_head_sign _ _) h
      obtain ⟨ho, hgap⟩ := List.cons.inj hsign
      obtain ⟨hafter, hdigits⟩ := Gap.unique (k.literal.isBlank_head _) (k'.literal.isBlank_head _) hgap
      obtain ⟨hliteral, hlinks⟩ := DigitRun.unique (isDigit_head_links _ _) (isDigit_head_links _ _) hdigits
      obtain ⟨rfl, hg⟩ := ih hlinks
      rw [Link.ext hbefore (sign_injective ho) hafter hliteral]
      exact ⟨rfl, hg⟩

/-- A text has at most one line form. -/
theorem LineForm.text_injective {f f' : LineForm} (h : f.text = f'.text) : f = f' := by
  obtain ⟨hlead, hdigits⟩ := Gap.unique (f.first.isBlank_head _) (f'.first.isBlank_head _) h
  obtain ⟨hfirst, hlinks⟩ := DigitRun.unique (isDigit_head_links _ _) (isDigit_head_links _ _) hdigits
  obtain ⟨hks, htrail⟩ := links_unique hlinks
  exact LineForm.ext hlead hfirst hks htrail

end Reckoner
