import Reckoner.Proofs.Toml.LongInteger
import Reckoner.Settings.Load

/-!
# How a load of settings ends

Whatever a path leads to, a load gives settings, or is refused with a diagnostic that names the path, or breaks down without
one (`load_ends`). It breaks down in three ways (`BreaksDown`): at a path that is too long, at a content that is not UTF-8, and
at a text with a decimal integer longer than the longest numeral. Each of them occurs: any key set to such an integer is enough
(`load_longInteger`), and so is a single byte that begins no character (`load_lone_byte`). These are all the ways only as far as
the nesting of values is left out: here a text may nest them to any depth, while the program runs out of stack at some depth.
-/

namespace Reckoner.Settings

/-- The diagnostic of a load that is refused: it names the path, and no place in any line. -/
def IsRefusal (path : Path) (d : Diagnostic) : Prop :=
  d.position = none ∧ (d.message = "Cannot read " ++ path.text ∨ d.message = "Invalid configuration in " ++ path.text ++ ":")

/-- What a path leads to makes a load break down. The stack that deeply nested values take up is left out. -/
inductive BreaksDown (files : Files) (path : Path) : LoadError → Prop where
  | tooLong (h : files path = .tooLong) : BreaksDown files path (.tooLong path)
  | undecodable {content : ByteArray} (h : files path = .found (.file content)) (hutf8 : String.fromUTF8? content = none) :
      BreaksDown files path .undecodable
  | oversized {content : ByteArray} {text : String} {n : Nat} (h : files path = .found (.file content))
      (hutf8 : String.fromUTF8? content = some text) (hlong : Numeral.digitLimit < n)
      (hdigits : Toml.HoldsDigits n text.toList) : BreaksDown files path (.oversized n)

/-- A load ends in settings, in a refusal, or in a breakdown that what the path leads to explains. -/
def Ends (files : Files) (path : Path) (r : Except LoadError Settings) : Prop :=
  (∃ s, r = .ok s) ∨ (∃ e d, r = .error e ∧ e.diagnostic? = some d ∧ IsRefusal path d) ∨
    ∃ e, r = .error e ∧ e.diagnostic? = none ∧ BreaksDown files path e

/-- What a path leads to can be read: the path is not too long, and a file there holds text in UTF-8 with no more digits in a
row than the longest numeral has. How deeply the text nests its values does not count here; the program can read only what its
stack has room for. -/
def Readable (files : Files) (path : Path) : Prop :=
  files path ≠ .tooLong ∧ ∀ content, files path = .found (.file content) →
    ∃ text, String.fromUTF8? content = some text ∧ ∀ n, Toml.HoldsDigits n text.toList → n ≤ Numeral.digitLimit

section

variable {files : Files} {path : Path} {content : ByteArray}

/-- Nothing breaks down where a path leads to something that can be read. -/
theorem BreaksDown.not_readable {e : LoadError} (h : BreaksDown files path e) : ¬Readable files path := by
  rintro ⟨hpath, hfile⟩
  cases h with
  | tooLong h => exact hpath h
  | undecodable h hutf8 =>
    obtain ⟨text, htext, -⟩ := hfile _ h
    rw [hutf8] at htext
    cases htext
  | oversized h hutf8 hlong hdigits =>
    obtain ⟨text, htext, hshort⟩ := hfile _ h
    rw [hutf8] at htext
    obtain rfl := Option.some.inj htext
    exact Nat.not_le_of_lt hlong (hshort _ hdigits)

theorem Ends.unreadable (cause : Unreadable) : Ends files path (.error (.unreadable path cause)) :=
  .inr (.inl ⟨_, _, rfl, rfl, rfl, .inl rfl⟩)

theorem Ends.brokenDown {e : LoadError} (h : BreaksDown files path e) : Ends files path (.error e) := by
  refine .inr (.inr ⟨e, rfl, ?_, h⟩)
  cases h <;> rfl

/-- The settings that a record holds are given, or refused. -/
theorem ends_ofRecord (p : Plain) : Ends files path (ofRecord path p) := by
  unfold ofRecord
  cases ofPlain p with
  | ok s => exact .inl ⟨s, rfl⟩
  | error vs => exact .inr (.inl ⟨_, _, rfl, rfl, rfl, .inr rfl⟩)

/-- The content of a file gives settings, is refused, or breaks down. -/
theorem ends_ofContent (h : files path = .found (.file content)) : Ends files path (ofContent path content) := by
  unfold ofContent
  cases hutf8 : String.fromUTF8? content with
  | none => exact .brokenDown (.undecodable h hutf8)
  | some text =>
    have hyields := Toml.Document.yields_ofText text
    dsimp only
    cases hdocument : Toml.Document.ofText text with
    | ok fields => exact ends_ofRecord _
    | error fault =>
      rw [hdocument] at hyields
      cases hyields with
      | malformed => exact .unreadable .malformed
      | oversized hlong hdigits => exact .brokenDown (.oversized h hutf8 hlong hdigits)

/-- Every loading gives settings, is refused, or breaks down. -/
theorem ends_load (files : Files) (path : Path) : Ends files path (load files path) := by
  unfold load
  split
  · exact .inl ⟨default, rfl⟩
  · rename_i h
    exact .brokenDown (.tooLong h)
  · exact .unreadable .folder
  · rename_i h
    exact ends_ofContent h

/-- An error of a load without a diagnostic is explained by what the path leads to. -/
theorem Ends.breaksDown {e : LoadError} (h : Ends files path (.error e)) (he : e.diagnostic? = none) :
    BreaksDown files path e := by
  rcases h with ⟨s, hs⟩ | ⟨_, d, hd, hsome, -⟩ | ⟨_, hd, -, h⟩
  · cases hs
  · obtain rfl := Except.error.inj hd
    rw [he] at hsome
    cases hsome
  · obtain rfl := Except.error.inj hd
    exact h

end

/-- A file that sets a key to an integer longer than the longest numeral makes the load break down, whatever the key. -/
theorem load_longInteger {files : Files} {path : Path} {a c : Char} {name ds : List Char}
    (hfile : files path = .found (.file (String.ofList (Toml.Document.settingText (c :: name) (a :: ds))).toUTF8))
    (hname : ∀ d ∈ c :: name, Toml.isBareKeyChar d = true) (h : Toml.IsLongInteger (a :: ds)) :
    load files path = .error (.oversized (a :: ds).length) := by
  have hutf8 : ∀ text : String, String.fromUTF8? text.toUTF8 = some text := fun text => dif_pos text.isValidUTF8
  simp only [load, hfile, ofContent, hutf8, Toml.Document.ofText_longInteger hname h]

/-- Whatever a path leads to, a load gives settings, or is refused with a diagnostic that names the path, or breaks down for
one of three reasons; where it can be read, it does not break down. It does so every time the path is too long, and every time
the content of the file is not UTF-8. The depth to which values nest is idealised (`Readable`). -/
theorem load_ends (files : Files) (path : Path) :
    Ends files path (load files path) ∧
      (Readable files path →
        (∃ s, load files path = .ok s) ∨ ∃ e d, load files path = .error e ∧ e.diagnostic? = some d ∧ IsRefusal path d) ∧
      (load files path = .error (.tooLong path) ↔ files path = .tooLong) ∧
      (load files path = .error .undecodable ↔
        ∃ content, files path = .found (.file content) ∧ String.fromUTF8? content = none) := by
  have hends := ends_load files path
  refine ⟨hends, fun hreadable => ?_, ⟨fun h => ?_, fun h => ?_⟩, ⟨fun h => ?_, ?_⟩⟩
  · rcases hends with hok | hrefused | ⟨e, -, -, hbroken⟩
    · exact .inl hok
    · exact .inr hrefused
    · exact absurd hreadable hbroken.not_readable
  · rw [h] at hends
    obtain ⟨h⟩ := hends.breaksDown rfl
    exact h
  · rw [load, h]
  · rw [h] at hends
    obtain ⟨-⟩ | ⟨h, hutf8⟩ := hends.breaksDown rfl
    exact ⟨_, h, hutf8⟩
  · rintro ⟨content, h, hutf8⟩
    simp only [load, h, ofContent, hutf8]

/-- A file of a few characters can be read, so its load gives settings or is refused. -/
theorem load_ends_short :
    Readable (fun _ => .found (.file "int_bits 32".toUTF8)) usualPath ∧
      ((∃ s, load (fun _ => .found (.file "int_bits 32".toUTF8)) usualPath = .ok s) ∨
        ∃ e d, load (fun _ => .found (.file "int_bits 32".toUTF8)) usualPath = .error e ∧ e.diagnostic? = some d ∧
          IsRefusal usualPath d) := by
  have hreadable : Readable (fun _ => .found (.file "int_bits 32".toUTF8)) usualPath := by
    refine ⟨by simp, fun content hcontent => ⟨"int_bits 32", ?_, fun n hn => ?_⟩⟩
    · cases hcontent
      exact dif_pos (String.isValidUTF8 _)
    · exact Nat.le_trans hn.le_length (by decide)
  exact ⟨hreadable, (load_ends _ usualPath).2.1 hreadable⟩

/-- A file of one byte that begins no character: the load breaks down, without a diagnostic. -/
theorem load_lone_byte :
    load (fun _ => .found (.file ⟨#[0xFF]⟩)) usualPath = .error .undecodable ∧ LoadError.undecodable.diagnostic? = none := by
  have hutf8 : String.fromUTF8? ⟨#[0xFF]⟩ = none := by cbv
  refine ⟨?_, rfl⟩
  simp only [load, ofContent, hutf8]

end Reckoner.Settings
