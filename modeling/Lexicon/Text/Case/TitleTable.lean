import Lexicon.Text.Case.Run

/-!
# Title case past ASCII

The code points past ASCII whose title case is not their upper case: letters
written as two, letters whose second half stays small, and the alphabet whose
capitals never open a word.
-/

namespace Lexicon

/-- Runs of single code points, in order (Unicode 14). -/
def titleRuns : List CaseRun :=
  [
    ⟨0x1C4, 0x1C4, 1, 1⟩, ⟨0x1C5, 0x1C5, 1, 0⟩, ⟨0x1C6, 0x1C6, 1, -1⟩,
    ⟨0x1C7, 0x1C7, 1, 1⟩, ⟨0x1C8, 0x1C8, 1, 0⟩, ⟨0x1C9, 0x1C9, 1, -1⟩,
    ⟨0x1CA, 0x1CA, 1, 1⟩, ⟨0x1CB, 0x1CB, 1, 0⟩, ⟨0x1CC, 0x1CC, 1, -1⟩,
    ⟨0x1F1, 0x1F1, 1, 1⟩, ⟨0x1F2, 0x1F2, 1, 0⟩, ⟨0x1F3, 0x1F3, 1, -1⟩,
    ⟨0x10D0, 0x10FA, 1, 0⟩, ⟨0x10FD, 0x10FF, 1, 0⟩, ⟨0x1F80, 0x1F87, 1, 8⟩,
    ⟨0x1F88, 0x1F8F, 1, 0⟩, ⟨0x1F90, 0x1F97, 1, 8⟩, ⟨0x1F98, 0x1F9F, 1, 0⟩,
    ⟨0x1FA0, 0x1FA7, 1, 8⟩, ⟨0x1FA8, 0x1FAF, 1, 0⟩, ⟨0x1FB3, 0x1FB3, 1, 9⟩,
    ⟨0x1FBC, 0x1FBC, 1, 0⟩, ⟨0x1FC3, 0x1FC3, 1, 9⟩, ⟨0x1FCC, 0x1FCC, 1, 0⟩,
    ⟨0x1FF3, 0x1FF3, 1, 9⟩, ⟨0x1FFC, 0x1FFC, 1, 0⟩
  ]

/-- Code points whose image is a longer text, in order (Unicode 14). -/
def titleSpecials : List (Nat × List CodePoint) :=
  [
    (0xDF, [0x53, 0x73]), (0x587, [0x535, 0x582]), (0x1FB2, [0x1FBA, 0x345]),
    (0x1FB4, [0x386, 0x345]), (0x1FB7, [0x391, 0x342, 0x345]),
    (0x1FC2, [0x1FCA, 0x345]), (0x1FC4, [0x389, 0x345]),
    (0x1FC7, [0x397, 0x342, 0x345]), (0x1FF2, [0x1FFA, 0x345]),
    (0x1FF4, [0x38F, 0x345]), (0x1FF7, [0x3A9, 0x342, 0x345]),
    (0xFB00, [0x46, 0x66]), (0xFB01, [0x46, 0x69]), (0xFB02, [0x46, 0x6C]),
    (0xFB03, [0x46, 0x66, 0x69]), (0xFB04, [0x46, 0x66, 0x6C]),
    (0xFB05, [0x53, 0x74]), (0xFB06, [0x53, 0x74]), (0xFB13, [0x544, 0x576]),
    (0xFB14, [0x544, 0x565]), (0xFB15, [0x544, 0x56B]),
    (0xFB16, [0x54E, 0x576]), (0xFB17, [0x544, 0x56D])
  ]

end Lexicon
