import Multilink.Clock
import Multilink.Text.Numeral
import Multilink.Text.Parts
/-!
# Announcements of awake windows

A node asks another with the text `WHEN`, and is answered with `NEXT`, the microseconds until the
next window and the length of that window, bars between.
-/

namespace Multilink.Announcement

/-- The text that asks for the next window. -/
def question : String := "WHEN"

/-- The word that an answer begins with. -/
def tag : String := "NEXT"

/-- The text that announces a window `wait` microseconds ahead that lasts for `awake`. -/
def text (wait awake : Micros) : String :=
  tag ++ "|" ++ Numeral.decimal wait.toNat ++ "|" ++ Numeral.decimal awake.toNat

/-- Reads an announcement: exactly three parts between bars, the tag and two numerals of 64 bits. -/
def read? (s : String) : Option (Micros × Micros) :=
  match Parts.split (· == '|') s.toList with
  | [word, wait, awake] =>
    if String.ofList word = tag then do
      let wait ← Numeral.readWord64? (String.ofList wait)
      let awake ← Numeral.readWord64? (String.ofList awake)
      pure (wait, awake)
    else none
  | _ => none

end Multilink.Announcement
