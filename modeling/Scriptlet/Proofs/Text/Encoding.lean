import Scriptlet.Text.Encoding

/-!
# Encoded texts

A text that is encoded as UTF-8 is read back as it is if it has no carriage return.
-/

namespace Scriptlet.Text.Encoding

theorem decode_toUTF8 (text : String) : decode text.toUTF8 = .ok text := by
  have decoded : String.fromUTF8? text.toUTF8 = some text := by
    simp only [String.fromUTF8?, String.toUTF8_eq_toByteArray, dif_pos text.isValidUTF8]
    rfl
  rw [decode, decoded]

theorem unifyLineEnds_eq_self
    {text : List Char}
    (noReturn : '\r' ∉ text) :
    unifyLineEnds text = text := by
  induction text with
  | nil => rfl
  | cons c rest inductionHypothesis =>
      rw [List.mem_cons, not_or] at noReturn
      obtain ⟨notReturn, noReturn⟩ := noReturn
      rw [unifyLineEnds, inductionHypothesis noReturn]
      · rintro _ rfl
        exact absurd rfl notReturn
      · rintro rfl
        exact absurd rfl notReturn

theorem readText_toUTF8
    {text : String}
    (noReturn : '\r' ∉ text.toList) :
    readText text.toUTF8 = .ok text := by
  rw [readText, decode_toUTF8]
  dsimp only
  rw [unifyLineEnds_eq_self noReturn, String.ofList_toList]

end Scriptlet.Text.Encoding
