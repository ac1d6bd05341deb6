/-!
# Comparison up to ASCII case

Names of settings are recognised whatever the case of their ASCII letters. No other
character is folded: a long s is not an s, and a dotless i is not an i.
-/

namespace DmaReadout.Text

/-- The text with its ASCII letters in upper case. -/
def upperCase (s : String) : String :=
  String.ofList (s.toList.map Char.toUpper)

/-- Whether two texts have equal lengths and agree character by character up to ASCII case. -/
def equalIgnoringCase (s t : String) : Bool :=
  s.toList.map Char.toUpper == t.toList.map Char.toUpper

theorem equalIgnoringCase_iff {s t : String} :
    equalIgnoringCase s t = true ↔ upperCase s = upperCase t := by
  simp [equalIgnoringCase, upperCase, String.ofList_inj]

end DmaReadout.Text
