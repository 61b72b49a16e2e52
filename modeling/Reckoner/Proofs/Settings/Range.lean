import Reckoner.Proofs.Settings.Reading
import Reckoner.Settings.Load

/-!
# The range of settings: how many bits the literals of loaded settings can have

Whatever plain value is read as settings, a number of bits among them lies between 8 and 128 (`inRange_of_ofPlain`), though the
value may have been a truth value, a text or a floating-point number. So it is with settings that are loaded from a file or hold
where there is none (`inRange_of_resolve`): some integer fits their width.
-/

namespace Reckoner

/-! ## Settings that a plain value is read as -/

namespace Settings

/-- Literals are unbounded, or have from 8 to 128 bits. -/
def InRange (s : Settings) : Prop := ∀ n, s.literalBits = some n → 8 ≤ n ∧ n ≤ 128

variable {s : Settings}

/-- Some integer fits the width of settings in range. -/
theorem InRange.proper (h : s.InRange) : s.width.Proper := by
  unfold width
  split
  · trivial
  · rename_i n hn
    obtain ⟨hlow, -⟩ := h n hn
    show 1 ≤ n
    omega

/-- The defaults are within their ranges. -/
theorem inRange_default : default.InRange := by
  intro n hn
  obtain rfl := Option.some.inj hn
  decide

/-- Settings that a plain value is read as are in range. -/
theorem inRange_of_ofPlain {p : Plain} (h : ofPlain p = .ok s) : s.InRange := by
  obtain ⟨fields, rfl, hread⟩ := ofPlain_eq_ok_iff.1 h
  intro n hn
  rcases hread.literalBits with ⟨-, habsent⟩ | ⟨q, -, ⟨hnone, -⟩ | ⟨m, hm, -, hrange⟩⟩
  · exact inRange_default n (habsent ▸ hn)
  · cases hnone.symm.trans hn
  · obtain rfl := Option.some.inj (hm.symm.trans hn)
    exact hrange

/-! ## Settings that are loaded -/

variable {files : Files}

/-- Settings that are loaded are the defaults, or were read from a plain value. -/
theorem exists_of_load {path : Path} (h : load files path = .ok s) : s = default ∨ ∃ p, ofPlain p = .ok s := by
  unfold load at h
  split at h
  · exact .inl (Except.ok.inj h).symm
  · cases h
  · cases h
  · unfold ofContent at h
    split at h
    · cases h
    · split at h
      · cases h
      · cases h
      · exact .inr ⟨_, Check.mapError_eq_ok_iff.1 h⟩

/-- Settings that an invocation comes to are in range. -/
theorem inRange_of_resolve {path : Option Path} (h : resolve files path = .ok s) : s.InRange := by
  have hload : ∃ p, load files p = .ok s := by
    unfold resolve at h
    split at h
    · exact ⟨_, h⟩
    · split at h
      · cases h
      · exact ⟨_, h⟩
  obtain ⟨p, hp⟩ := hload
  rcases exists_of_load hp with rfl | ⟨q, hq⟩
  · exact inRange_default
  · exact inRange_of_ofPlain hq

end Settings

end Reckoner
